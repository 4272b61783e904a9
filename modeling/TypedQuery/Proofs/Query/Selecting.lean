import TypedQuery.Proofs.Query.Attachment
import TypedQuery.Proofs.Query.Isolation
import TypedQuery.Proofs.Text.Trimming

/-!
# `Spells` — the selectors of a name

A selector spells a name where the name is one identifier, with white space around it and at most one
mark of a raw identifier in front. What the selector reader computes is exactly that: it trims, takes
one mark off, and tests what is left (`spells_iff`). No selector spells two names, since an identifier
neither ends in white space nor holds a mark.

`select_ok_iff_spelled` is what a query makes of it: **it selects the first member of the name that is
spelled, and of every other selector it keeps nothing but the text for its message**. A refused
selector leaves the whole session as it is, so every query compiles afterwards as before.
-/

set_option autoImplicit false

namespace TypedQuery

namespace Selector

open Text

/-! ## Identifiers -/

/-- An identifier: a letter or an underscore, then letters, numbers and underscores, and not the
    underscore alone. -/
structure IsIdentifier (name : List Char) : Prop where
  opens : ∃ c ∈ name.head?, c = '_' ∨ isAlphabetic c = true
  continues : ∀ c ∈ name.tail, c = '_' ∨ isAlphanumeric c = true
  named : name ≠ ['_']

theorem isIdentifier_iff {name : List Char} : isIdentifier name = true ↔ IsIdentifier name := by
  cases name with
  | nil => exact ⟨fun h => absurd h (by simp [isIdentifier]), fun h => absurd h.opens (by simp)⟩
  | cons c rest =>
    simp only [isIdentifier, Bool.and_eq_true, Bool.or_eq_true, beq_iff_eq, List.all_eq_true,
      bne_iff_ne]
    constructor
    · rintro ⟨⟨opens, continues⟩, named⟩
      exact ⟨⟨c, rfl, opens⟩, continues, named⟩
    · rintro ⟨⟨d, head, opens⟩, continues, named⟩
      obtain rfl := Option.some.inj head
      exact ⟨⟨opens, continues⟩, named⟩

namespace IsIdentifier

variable {name : List Char} {c : Char} (h : IsIdentifier name)

include h

theorem ne_nil : name ≠ [] := by
  rintro rfl
  exact absurd h.opens (by simp)

theorem mem (mem : c ∈ name) : c = '_' ∨ isAlphanumeric c = true := by
  obtain ⟨first, rest, rfl⟩ := List.exists_cons_of_ne_nil h.ne_nil
  rcases List.mem_cons.1 mem with rfl | mem
  · obtain ⟨d, head, opens⟩ := h.opens
    obtain rfl := Option.some.inj head
    exact opens.imp id isAlphanumeric_of_isAlphabetic
  · exact h.continues c mem

theorem isBlank_eq_false (mem : c ∈ name) : isBlank c = false := by
  apply Bool.eq_false_iff.2
  intro blank
  rcases h.mem mem with rfl | alphanumeric
  · exact absurd blank (by decide)
  · exact absurd alphanumeric (by simp [isAlphanumeric_of_isBlank blank])

/-- An identifier has no mark to remove, and under a mark it is what remains. -/
theorem unmarked_append {mark : List Char} (marked : mark = [] ∨ mark = ['r', '#']) :
    unmarked (mark ++ name) = name := by
  rcases marked with rfl | rfl
  · rw [List.nil_append]
    apply unmarked_eq_self
    intro hash
    exact absurd (h.mem hash) (by decide)
  · rfl

end IsIdentifier

/-! ## What a selector spells -/

/-- A selector spells a name: an identifier, behind a mark or not, between white space. -/
def Spells (selector name : String) : Prop :=
  IsIdentifier name.toList ∧ ∃ before mark after,
    selector.toList = before ++ (mark ++ name.toList) ++ after ∧
      (∀ c ∈ before, isBlank c = true) ∧ (mark = [] ∨ mark = ['r', '#']) ∧
      ∀ c ∈ after, isBlank c = true

/-- What trimming leaves of a selector that spells a name. -/
theorem Spells.trim_eq {selector name : String} (h : Spells selector name) :
    ∃ mark, (mark = [] ∨ mark = ['r', '#']) ∧ trim selector.toList = mark ++ name.toList := by
  obtain ⟨identifier, before, mark, after, text, blank, marked, blank'⟩ := h
  refine ⟨mark, marked, ?_⟩
  have notBlank : ∀ c ∈ mark ++ name.toList, isBlank c = false := by
    intro c mem
    rcases List.mem_append.1 mem with mem | mem
    · rcases marked with rfl | rfl
      · exact absurd mem List.not_mem_nil
      · rcases List.mem_pair.1 mem with rfl | rfl
        · decide
        · decide
    · exact identifier.isBlank_eq_false mem
  rw [text]
  apply trim_surrounded blank blank'
  · simp [identifier.ne_nil]
  · exact fun c head => notBlank c (List.mem_of_mem_head? head)
  · exact fun c last => notBlank c (List.mem_of_mem_getLast? last)

/-- **A selector spells what is left of it**, trimmed and without one mark, if that is an
    identifier. -/
theorem spells_iff {selector name : String} :
    Spells selector name ↔
      isIdentifier (ident selector.toList) = true ∧ String.ofList (ident selector.toList) = name := by
  constructor
  · intro h
    obtain ⟨mark, marked, trimmed⟩ := h.trim_eq
    have left : ident selector.toList = name.toList := by
      rw [ident, trimmed, h.1.unmarked_append marked]
    rw [left]
    exact ⟨isIdentifier_iff.2 h.1, String.ofList_toList⟩
  · rintro ⟨identifier, rfl⟩
    obtain ⟨before, after, text, blank, blank'⟩ := exists_trim selector.toList
    obtain ⟨mark, marked, behind⟩ := exists_unmarked (trim selector.toList)
    rw [Spells, String.toList_ofList]
    refine ⟨isIdentifier_iff.1 identifier, before, mark, after, ?_, blank, marked, blank'⟩
    rw [ident, ← behind]
    exact text

/-- A selector spells one name at most. -/
theorem Spells.unique {selector name name' : String} (h : Spells selector name)
    (h' : Spells selector name') : name = name' := by
  rw [← (spells_iff.1 h).2, ← (spells_iff.1 h').2]

/-! ## Members of a name -/

/-- The first member of a name: it has the name, and none before it does. -/
def IsFirst {n : Nat} (members : List (Member n)) (name : String) (m : Member n) : Prop :=
  m.name = name ∧
    ∃ earlier later, members = earlier ++ m :: later ∧ ∀ other ∈ earlier, other.name ≠ name

theorem member?_eq_some_iff {n : Nat} {root : Descriptor n} {name : String} {m : Member n} :
    root.member? name = some m ↔ IsFirst root.members name m := by
  rw [Descriptor.member?, List.find?_eq_some_iff_append, IsFirst, beq_iff_eq]
  simp only [Bool.not_eq_true', beq_eq_false_iff_ne]

theorem member?_eq_none_iff {n : Nat} {root : Descriptor n} {name : String} :
    root.member? name = none ↔ ∀ m ∈ root.members, m.name ≠ name := by
  rw [Descriptor.member?, List.find?_eq_none]
  simp only [beq_iff_eq, ne_eq]

/-! ## What a selector finds -/

variable {n : Nat} {root : Descriptor n} {selector name : String}

theorem resolve_of_spells (spelled : Spells selector name) :
    resolve root selector =
      match root.member? name with
      | some member => .ok member
      | none => .error (.unsupportedSelector selector (.unknownMember root.key name)) := by
  obtain ⟨identifier, rfl⟩ := spells_iff.1 spelled
  exact if_pos identifier

theorem resolve_of_not_spells (unspelled : ¬ ∃ name, Spells selector name) :
    resolve root selector =
      .error (.unsupportedSelector selector (fault (trim selector.toList))) := by
  apply if_neg
  intro identifier
  exact unspelled ⟨_, spells_iff.2 ⟨identifier, rfl⟩⟩

/-- A selector finds the first member of the name that it spells, and no other. -/
theorem resolve_eq_ok_iff {m : Member n} : resolve root selector = .ok m ↔
    ∃ name, Spells selector name ∧ IsFirst root.members name m := by
  constructor
  · intro found
    by_cases spelled : ∃ name, Spells selector name
    · obtain ⟨name, spelled⟩ := spelled
      refine ⟨name, spelled, member?_eq_some_iff.1 ?_⟩
      rw [resolve_of_spells spelled] at found
      split at found
      · rename_i here
        rw [here, Except.ok.inj found]
      · exact absurd found (by simp)
    · rw [resolve_of_not_spells spelled] at found
      exact absurd found (by simp)
  · rintro ⟨name, spelled, first⟩
    rw [resolve_of_spells spelled, member?_eq_some_iff.2 first]

/-- Why a selector is refused: a name that no member has, or no name at all. -/
theorem resolve_eq_error
    (missed : ¬ ∃ name, Spells selector name ∧ ∃ m ∈ root.members, m.name = name) :
    ∃ fault, resolve root selector = .error (.unsupportedSelector selector fault) ∧
      (∀ name, Spells selector name → fault = .unknownMember root.key name) ∧
      ((¬ ∃ name, Spells selector name) → fault = Selector.fault (trim selector.toList)) := by
  by_cases spelled : ∃ name, Spells selector name
  · obtain ⟨name, spelled⟩ := spelled
    have unknown : root.member? name = none := by
      rw [member?_eq_none_iff]
      intro m mem same
      exact missed ⟨name, spelled, m, mem, same⟩
    refine ⟨.unknownMember root.key name, ?_, ?_, fun unspelled => absurd ⟨name, spelled⟩ unspelled⟩
    · rw [resolve_of_spells spelled, unknown]
    · intro other spelled'
      rw [spelled.unique spelled']
  · exact ⟨_, resolve_of_not_spells spelled, fun name h => absurd ⟨name, h⟩ spelled, fun _ => rfl⟩

end Selector

/-! ## Selecting in a session -/

variable {S : Schema}

/-- Attaches to a member of the root of a query. -/
def Session.attach (s : Session S) (n : Nat) (a : Attachment) : Session S :=
  s.onQuery n (·.attach a)

theorem Session.attach_of_error {s : Session S} {n : Nat} {a : Attachment}
    (refused : ∀ bound, s.queries[n]? = some bound →
      ∃ error, bound.query.select a.selector = .error error) : s.attach n a = s := by
  have same : (s.attach n a).queries = s.queries := by
    apply List.ext_getElem?
    intro k
    rw [attach, getElem?_onQuery]
    split
    · rename_i here
      cases stored : s.queries[k]? with
      | none => rfl
      | some bound =>
        obtain ⟨error, refused⟩ := refused bound (here ▸ stored)
        simp only [Option.map_some, Query.attach, refused]
    · rfl
  exact congrArg (Session.mk s.registries s.builders) same

open Selector in
/-- **A query selects the first member of the name that a selector spells.** Of a selector that spells
    no name of a member it returns the text as it was given and why it was refused, and attaching by
    it leaves a session as it is: whatever is done and compiled then goes as it would have. -/
theorem Query.select_ok_iff_spelled (q : Query S) (selector : String) :
    (∀ id, q.select selector = .ok id ↔
      ∃ name m, Spells selector name ∧ IsFirst q.descriptor.members name m ∧ m.id = id) ∧
    ((¬ ∃ name, Spells selector name ∧ ∃ m ∈ q.descriptor.members, m.name = name) →
      (∃ fault, q.select selector = .error (.unsupportedSelector selector fault) ∧
        (∀ name, Spells selector name → fault = .unknownMember q.descriptor.key name) ∧
        ((¬ ∃ name, Spells selector name) → fault = Selector.fault (Text.trim selector.toList))) ∧
      ∀ (s : Session S) (n : Nat) (bound : BoundQuery S), s.queries[n]? = some bound →
        bound.query = q → ∀ (changes : List Change) (steps : List (Session.Step S)),
          (s.attach n ⟨selector, changes⟩).run steps = s.run steps) := by
  constructor
  · intro id
    rw [Query.select]
    constructor
    · intro selected
      cases found : resolve q.descriptor selector with
      | error error =>
        rw [found] at selected
        exact absurd selected (by simp [Except.map])
      | ok m =>
        rw [found] at selected
        obtain ⟨name, spelled, first⟩ := resolve_eq_ok_iff.1 found
        exact ⟨name, m, spelled, first, Except.ok.inj selected⟩
    · rintro ⟨name, m, spelled, first, rfl⟩
      rw [resolve_eq_ok_iff.2 ⟨name, spelled, first⟩]
      rfl
  · intro missed
    obtain ⟨fault, refused, known, unspelled⟩ := resolve_eq_error missed
    have failed : q.select selector = .error (.unsupportedSelector selector fault) := by
      rw [Query.select, refused]
      rfl
    refine ⟨⟨fault, failed, known, unspelled⟩, ?_⟩
    rintro s n bound stored rfl changes steps
    rw [Session.attach_of_error]
    intro other stored'
    obtain rfl : bound = other := Option.some.inj (stored.symm.trans stored')
    exact ⟨_, failed⟩

/-- A type described by hand: two members of one name, and one whose name is no identifier. -/
def doubled : Schema :=
  .ofDeclarations fun i : Fin 1 => (⟨23, "Doubled"⟩, .composite
    [⟨⟨⟨23, "Doubled"⟩, "id"⟩, none, i⟩, ⟨⟨⟨24, "Elsewhere"⟩, "id"⟩, none, i⟩,
      ⟨⟨⟨23, "Doubled"⟩, "unit price"⟩, none, i⟩])

namespace doubled

def query : Query doubled := .new (Fin.last 0) Encoder.default QueryConfig.default

open Selector in
theorem select_first :
    query.select " r#id\n" = .ok ⟨⟨23, "Doubled"⟩, "id"⟩ ∧
      ∃ fault, query.select "unit price" = .error (.unsupportedSelector "unit price" fault) := by
  have spelled : Spells " r#id\n" "id" := spells_iff.2 (by decide)
  have unspelled : ¬ ∃ name, Spells "unit price" name := by
    rintro ⟨name, spelled⟩
    exact absurd (spells_iff.1 spelled).1 (by decide)
  obtain ⟨selects, -⟩ := query.select_ok_iff_spelled " r#id\n"
  obtain ⟨-, refuses⟩ := query.select_ok_iff_spelled "unit price"
  constructor
  · exact (selects _).2 ⟨"id", _, spelled, ⟨rfl, [], _, rfl, by simp⟩, rfl⟩
  · obtain ⟨⟨fault, refused, -⟩, -⟩ := refuses fun ⟨name, h, _⟩ => unspelled ⟨name, h⟩
    exact ⟨fault, refused⟩

end doubled

end TypedQuery
