import Mathlib.Data.String.Basic
import TypedQuery.Json.Document
import TypedQuery.Proofs.Outcomes

/-!
# `Document.keys` — the keys of a document

The keys are listed in document order: a key, the keys inside its value, and then the entries after it.
An object of a document has each key once. It is made by inserting its entries where their keys belong,
so its keys ascend (`ascending_insertSorted`), and reading keeps nothing else than what it made so
(`keysDistinct_of_ofText`).
-/

set_option autoImplicit false

namespace TypedQuery.Json

open Outcome

namespace Document

mutual

/-- The keys at every depth, in document order. -/
def keys : Document → List String
  | .array items => itemKeys items
  | .object entries => entryKeys entries
  | _ => []

def itemKeys : List Document → List String
  | [] => []
  | item :: rest => keys item ++ itemKeys rest

def entryKeys : List (String × Document) → List String
  | [] => []
  | (key, item) :: rest => key :: keys item ++ entryKeys rest

end

mutual

/-- Every object in the document has each key once. -/
def KeysDistinct : Document → Prop
  | .array items => AllDistinct items
  | .object entries => Entries.Distinct entries ∧ EntriesDistinct entries
  | _ => True

def AllDistinct : List Document → Prop
  | [] => True
  | item :: rest => KeysDistinct item ∧ AllDistinct rest

def EntriesDistinct : List (String × Document) → Prop
  | [] => True
  | (_, item) :: rest => KeysDistinct item ∧ EntriesDistinct rest

end

theorem allDistinct_iff {items : List Document} :
    AllDistinct items ↔ ∀ item ∈ items, item.KeysDistinct := by
  induction items with
  | nil => simp [AllDistinct]
  | cons item rest ih => rw [AllDistinct, ih, List.forall_mem_cons]

theorem entriesDistinct_iff {entries : List (String × Document)} :
    EntriesDistinct entries ↔ ∀ e ∈ entries, e.2.KeysDistinct := by
  induction entries with
  | nil => simp [EntriesDistinct]
  | cons e rest ih => rw [EntriesDistinct, ih, List.forall_mem_cons]

/-! ## Objects of a document -/

/-- The keys ascend, so that none stands twice. -/
def Ascending (entries : List (String × Document)) : Prop :=
  entries.Pairwise fun a b => a.1 < b.1

theorem Ascending.distinct {entries : List (String × Document)} (h : Ascending entries) :
    Entries.Distinct entries := by
  refine List.pairwise_map.2 (h.imp ?_)
  intro a b less
  exact beq_false_of_ne less.ne

section Insertion

variable {key : String} {value : Document} {entries : List (String × Document)}

theorem mem_insertSorted {e : String × Document} (mem : e ∈ insertSorted key value entries) :
    e = (key, value) ∨ e ∈ entries := by
  induction entries with
  | nil => simpa [insertSorted] using mem
  | cons first rest ih =>
    obtain ⟨k, v⟩ := first
    unfold insertSorted at mem
    split_ifs at mem
    · exact (List.mem_cons.1 mem).imp_right (List.mem_cons_of_mem _)
    · exact List.mem_cons.1 mem
    · rcases List.mem_cons.1 mem with rfl | later
      · exact Or.inr List.mem_cons_self
      · exact (ih later).imp_right (List.mem_cons_of_mem _)

theorem ascending_insertSorted (ascending : Ascending entries) :
    Ascending (insertSorted key value entries) := by
  induction entries with
  | nil => exact List.pairwise_singleton ..
  | cons first rest ih =>
    obtain ⟨k, v⟩ := first
    obtain ⟨above, tail⟩ := List.pairwise_cons.1 ascending
    unfold insertSorted
    split_ifs with same less
    · obtain rfl := eq_of_beq same
      exact List.pairwise_cons.2 ⟨above, tail⟩
    · refine List.pairwise_cons.2 ⟨?_, ascending⟩
      intro e mem
      rcases List.mem_cons.1 mem with rfl | later
      · exact less
      · exact lt_trans less (above e later)
    · refine List.pairwise_cons.2 ⟨?_, ih tail⟩
      intro e mem
      rcases mem_insertSorted mem with rfl | later
      · have differ : k ≠ key := fun equal => same (by simp [equal])
        exact lt_of_le_of_ne (not_lt.1 less) differ
      · exact above e later

theorem keysDistinct_ofEntries (inside : ∀ e ∈ entries, e.2.KeysDistinct) :
    (ofEntries entries).KeysDistinct := by
  -- along the entries, for whatever is present already
  have inserted : ∀ present, Ascending present → (∀ e ∈ present, e.2.KeysDistinct) →
      Ascending (entries.foldl (fun sorted e => insertSorted e.1 e.2 sorted) present) ∧
        ∀ e ∈ entries.foldl (fun sorted e => insertSorted e.1 e.2 sorted) present,
          e.2.KeysDistinct := by
    induction entries with
    | nil => exact fun present ascending values => ⟨ascending, values⟩
    | cons first rest ih =>
      intro present ascending values
      obtain ⟨here, later⟩ := List.forall_mem_cons.1 inside
      refine ih later _ (ascending_insertSorted ascending) ?_
      intro e mem
      rcases mem_insertSorted mem with rfl | old
      · exact here
      · exact values e old
  obtain ⟨ascending, values⟩ := inserted [] List.Pairwise.nil nofun
  exact ⟨ascending.distinct, entriesDistinct_iff.2 values⟩

end Insertion

/-! ## Documents that are read -/

/-- What is read, if anything, has the property. -/
def Yields {ε α : Type} (p : α → Prop) (r : Except ε (α × Cursor)) : Prop :=
  ∀ x c, r = .ok (x, c) → p x

theorem yields_fail {α : Type} {p : α → Prop} {c : Cursor} {bytes : Nat} {cause : Cause} :
    Yields p (c.fail bytes cause) := by
  intro x c' read
  simp [Cursor.fail] at read

theorem yields_ok {ε α : Type} {p : α → Prop} {x : α} (c : Cursor) (here : p x) :
    Yields p (.ok (x, c) : Except ε (α × Cursor)) := by
  intro x' c' read
  obtain ⟨rfl, rfl⟩ := Prod.mk.inj (Except.ok.inj read)
  exact here

theorem yields_bind {ε α β : Type} {p : α → Prop} {r : Except ε β} {f : β → Except ε (α × Cursor)}
    (next : ∀ y, r = .ok y → Yields p (f y)) : Yields p (r >>= f) := by
  intro x c read
  obtain ⟨y, first, rest⟩ := bind_eq_ok_iff.1 read
  exact next y first x c rest

/-- The three readers call one another with less fuel, and only `ofEntries` makes an object. -/
structure KeepsDistinct (fuel : Nat) : Prop where
  document : ∀ (c : Cursor) (depth : Nat), Yields KeysDistinct (c.readDocument depth fuel)
  items : ∀ (c : Cursor) (depth : Nat) (first : Bool) (read : List Document), AllDistinct read →
    Yields AllDistinct (c.readItems depth first read fuel)
  entries : ∀ (c : Cursor) (depth : Nat) (first : Bool) (read : List (String × Document)),
    EntriesDistinct read → Yields EntriesDistinct (c.readEntries depth first read fuel)

section Steps

variable {fuel : Nat} (h : KeepsDistinct fuel)
include h

theorem KeepsDistinct.document_succ (c : Cursor) (depth : Nat) :
    Yields KeysDistinct (c.readDocument depth (fuel + 1)) := by
  unfold Cursor.readDocument
  dsimp only
  split
  · exact yields_fail
  · exact yields_bind fun c' _ => yields_ok c' trivial
  · exact yields_bind fun c' _ => yields_ok c' trivial
  · exact yields_bind fun c' _ => yields_ok c' trivial
  · exact yields_bind fun r _ => yields_ok r.2 trivial
  · split
    · exact yields_fail
    · refine yields_bind ?_
      intro r read
      exact yields_ok r.2 (h.items _ _ _ [] trivial r.1 r.2 read)
  · split
    · exact yields_fail
    · refine yields_bind ?_
      intro r read
      have inside := entriesDistinct_iff.1 (h.entries _ _ _ [] trivial r.1 r.2 read)
      exact yields_ok r.2 (keysDistinct_ofEntries inside)
  · split
    · exact yields_bind fun r _ => yields_ok r.2 trivial
    · exact yields_fail

theorem KeepsDistinct.items_succ (c : Cursor) (depth : Nat) (first : Bool) (read : List Document)
    (distinct : AllDistinct read) :
    Yields AllDistinct (c.readItems depth first read (fuel + 1)) := by
  have next : ∀ (c' : Cursor) (r : Document × Cursor), c'.readDocument depth fuel = .ok r →
      Yields AllDistinct (r.2.readItems depth false (r.1 :: read) fuel) := by
    intro c' r here
    exact h.items _ _ _ _ ⟨h.document _ _ r.1 r.2 here, distinct⟩
  unfold Cursor.readItems
  dsimp only
  split
  · exact yields_fail
  · refine yields_ok _ (allDistinct_iff.2 ?_)
    simpa using allDistinct_iff.1 distinct
  · split_ifs
    · exact yields_bind (next _)
    · exact yields_fail
    · exact yields_bind (next _)
    · exact yields_fail

theorem KeepsDistinct.entries_succ (c : Cursor) (depth : Nat) (first : Bool)
    (read : List (String × Document)) (distinct : EntriesDistinct read) :
    Yields EntriesDistinct (c.readEntries depth first read (fuel + 1)) := by
  unfold Cursor.readEntries
  dsimp only
  split
  · exact yields_fail
  · refine yields_ok _ (entriesDistinct_iff.2 ?_)
    simpa using entriesDistinct_iff.1 distinct
  · split
    · exact yields_fail
    · split
      · refine yields_bind ?_
        intro key _
        split
        · refine yields_bind ?_
          intro r here
          exact h.entries _ _ _ _ ⟨h.document _ _ r.1 r.2 here, distinct⟩
        · exact yields_fail
        · exact yields_fail
      · exact yields_fail
      · exact yields_fail
      · exact yields_fail

end Steps

theorem keepsDistinct (fuel : Nat) : KeepsDistinct fuel := by
  induction fuel with
  | zero =>
    refine ⟨?_, ?_, ?_⟩
    · intro c depth
      exact yields_fail
    · intro c depth first read distinct
      exact yields_fail
    · intro c depth first read distinct
      exact yields_fail
  | succ fuel ih => exact ⟨ih.document_succ, ih.items_succ, ih.entries_succ⟩

/-- **A document that is read has each key once in every object**, whatever its text repeats. -/
theorem keysDistinct_of_ofText {text : String} {j : Document} (read : ofText text = .ok j) :
    j.KeysDistinct := by
  unfold ofText at read
  obtain ⟨r, here, closed⟩ := bind_eq_ok_iff.1 read
  dsimp only at closed
  split at closed
  · obtain rfl := Except.ok.inj closed
    exact (keepsDistinct _).document _ _ r.1 r.2 here
  · simp [Cursor.fail] at closed

end Document

end TypedQuery.Json
