import TypedQuery.Proofs.Literal.Composition
import TypedQuery.Proofs.Literal.Roundtrip

/-!
# `Context` — what an enum can be taken for

An enum is written as its bare name, and the names are those of fields and arguments, so that `null`,
`true` and `false` are among them. These three words are literals of their own, and an enum of such a
name is written like the value that the word stands for. Every other literal opens with a character
that no name opens with, which reading it back shows: its skeleton is no word.

Where the enum stands does not matter. A context puts the same text before and after whatever it is
filled with (`exists_surroundings`), so two fillings are told apart by their own literals
(`literal_fill_eq_iff`). Hence **an enum is taken for another value exactly where its name is one of the
three words** and the other value is what that word stands for (`enum_taken_for_iff`).
-/

set_option autoImplicit false

namespace TypedQuery

open Outcome

namespace Value

/-- The names that are literals of their own, and what they stand for. -/
def words : List (String × Value) := [("null", .null), ("true", .bool true), ("false", .bool false)]

theorem literal_enum_eq_ok_iff {name text : String} :
    (enum name).literal = .ok text ↔ Text.isName name.toList = true ∧ name = text := by
  have spelled : String.ofList (enum name).spelling = name := String.ofList_toList
  rw [literal_eq_ok_iff, spelled]
  simp only [errors, leafError?]
  cases Text.isName name.toList <;> simp

/-! ## Contexts -/

/-- A value with one place left open, at some depth of lists and objects. -/
inductive Context where
  | here
  | item (before : List Value) (inside : Context) (after : List Value)
  | entry (before : List (String × Value)) (key : String) (inside : Context)
    (after : List (String × Value))

namespace Context

variable {C : Context} {v w : Value} {text : String}

def fill : Context → Value → Value
  | here, v => v
  | item before inside after, v => .list (before ++ inside.fill v :: after)
  | entry before key inside after, v => .object (before ++ (key, inside.fill v) :: after)

theorem exists_joined_surroundings (separator : Char) (opening : Bool)
    (earlier later : List (List Char)) :
    ∃ before after, ∀ piece, Reader.joined separator opening (earlier ++ piece :: later) =
      before ++ piece ++ after := by
  induction earlier generalizing opening with
  | nil =>
    refine ⟨if opening then [] else [separator], Reader.joined separator false later, ?_⟩
    intro piece
    cases opening <;> simp [Reader.joined]
  | cons first rest ih =>
    obtain ⟨before, after, joined⟩ := ih false
    refine ⟨(if opening then first else separator :: first) ++ before, after, ?_⟩
    intro piece
    rw [List.cons_append, Reader.joined, joined]
    simp

theorem exists_spelling (C : Context) :
    ∃ before after, ∀ v, (C.fill v).spelling = before ++ v.spelling ++ after := by
  induction C with
  | here => exact ⟨[], [], fun v => by simp [fill]⟩
  | item earlier inside later ih =>
    obtain ⟨before, after, spelled⟩ := ih
    obtain ⟨front, back, joined⟩ :=
      exists_joined_surroundings ',' true (earlier.map spelling) (later.map spelling)
    refine ⟨'[' :: front ++ before, after ++ back ++ [']'], ?_⟩
    intro v
    rw [fill, spelling, itemSpellings_eq, List.map_append, List.map_cons, joined, spelled]
    simp
  | entry earlier key inside later ih =>
    obtain ⟨before, after, spelled⟩ := ih
    let entryText (p : String × Value) := p.1.toList ++ ':' :: p.2.spelling
    obtain ⟨front, back, joined⟩ :=
      exists_joined_surroundings ',' true (earlier.map entryText) (later.map entryText)
    refine ⟨'\x7b' :: front ++ key.toList ++ ':' :: before, after ++ back ++ ['\x7d'], ?_⟩
    intro v
    rw [fill, spelling, entrySpellings_eq, List.map_append, List.map_cons, joined, spelled]
    simp

theorem exists_errors (C : Context) :
    ∃ before after, ∀ v, (C.fill v).errors = before ++ v.errors ++ after := by
  induction C with
  | here => exact ⟨[], [], fun v => by simp [fill]⟩
  | item earlier inside later ih =>
    obtain ⟨before, after, wrong⟩ := ih
    refine ⟨earlier.flatMap errors ++ before, after ++ later.flatMap errors, ?_⟩
    intro v
    rw [fill, errors, itemErrors_eq, List.flatMap_append, List.flatMap_cons, wrong]
    simp
  | entry earlier key inside later ih =>
    obtain ⟨before, after, wrong⟩ := ih
    refine ⟨entryErrors earlier ++ (keyError? key).toList ++ before, after ++ entryErrors later, ?_⟩
    intro v
    rw [fill, errors]
    simp only [entryErrors_eq, List.flatMap_append, List.flatMap_cons, wrong, List.append_assoc]

theorem literal_of_fill (encoded : (C.fill v).literal = .ok text) :
    v.literal = .ok (String.ofList v.spelling) := by
  obtain ⟨earlier, later, wrong⟩ := exists_errors C
  obtain ⟨nothing, -⟩ := literal_eq_ok_iff.1 encoded
  rw [wrong, List.append_eq_nil_iff, List.append_eq_nil_iff] at nothing
  exact literal_eq_ok_iff.2 ⟨nothing.1.2, rfl⟩

/-- **Two fillings of a context are written alike exactly if they are so by themselves.** -/
theorem literal_fill_eq_iff (encoded : (C.fill v).literal = .ok text) :
    (C.fill w).literal = .ok text ↔ w.literal = v.literal := by
  obtain ⟨before, after, spelled⟩ := exists_spelling C
  obtain ⟨earlier, later, wrong⟩ := exists_errors C
  have alone := literal_of_fill encoded
  obtain ⟨nothing, whole⟩ := literal_eq_ok_iff.1 encoded
  rw [wrong, List.append_eq_nil_iff, List.append_eq_nil_iff] at nothing
  obtain ⟨⟨rfl, -⟩, rfl⟩ := nothing
  rw [alone, literal_eq_ok_iff, literal_eq_ok_iff, ← whole, wrong, spelled, spelled]
  simp [String.ofList_inj]

end Context

/-! ## Enums among other values -/

/-- The values other than enums that are bare words. -/
theorem mem_words_of_skeleton {w : Value} {name : String} (same : w.skeleton = .word name) :
    w = .enum name ∨ (name, w) ∈ words := by
  cases w with
  | null =>
    obtain rfl := Literal.word.inj same
    simp [words]
  | bool b =>
    obtain rfl := Literal.word.inj same
    cases b <;> simp [words]
  | enum other =>
    obtain rfl := Literal.word.inj same
    exact Or.inl rfl
  | number n => cases n <;> exact absurd same nofun
  | _ => exact absurd same nofun

theorem literal_of_mem_words {name : String} {w : Value} (mem : (name, w) ∈ words) :
    w.literal = .ok name := by
  simp only [words, List.mem_cons, List.not_mem_nil, or_false, Prod.mk.injEq] at mem
  rcases mem with ⟨rfl, rfl⟩ | ⟨rfl, rfl⟩ | ⟨rfl, rfl⟩ <;> rfl

theorem literal_eq_enum_iff {name : String} (isName : Text.isName name.toList = true) (w : Value) :
    w.literal = (enum name).literal ↔ w = .enum name ∨ (name, w) ∈ words := by
  have encoded : (enum name).literal = .ok name := literal_enum_eq_ok_iff.2 ⟨isName, rfl⟩
  rw [encoded]
  constructor
  · intro same
    exact mem_words_of_skeleton (skeleton_eq_of_literal_eq same encoded)
  · rintro (rfl | mem)
    · exact encoded
    · exact literal_of_mem_words mem

/-- **What an enum is taken for.** An enum is accepted exactly if its name is a name, which the three
    words are. Wherever it stands, putting another value in its place changes the text, unless the name
    is one of these words and the other value what it stands for; so an enum of any other name is taken
    for no other value. -/
theorem enum_taken_for_iff (name : String) :
    ((∃ text, (enum name).literal = .ok text) ↔ Text.isName name.toList = true) ∧
    (∀ (C : Context) (text : String), (C.fill (.enum name)).literal = .ok text →
      ∀ w, (C.fill w).literal = .ok text ↔ w = .enum name ∨ (name, w) ∈ words) ∧
    (name ∉ words.map (·.1) → ∀ (C : Context) (text : String),
      (C.fill (.enum name)).literal = .ok text →
        ∀ w, (C.fill w).literal = .ok text → w = .enum name) := by
  have told : ∀ (C : Context) (text : String), (C.fill (.enum name)).literal = .ok text →
      ∀ w, (C.fill w).literal = .ok text ↔ w = .enum name ∨ (name, w) ∈ words := by
    intro C text encoded w
    have isName := (literal_enum_eq_ok_iff.1 (Context.literal_of_fill encoded)).1
    rw [Context.literal_fill_eq_iff encoded, literal_eq_enum_iff isName]
  refine ⟨?_, told, ?_⟩
  · simp [literal_enum_eq_ok_iff]
  · intro own C text encoded w same
    rcases (told C text encoded w).1 same with enum | word
    · exact enum
    · exact absurd (List.mem_map_of_mem word) own

/-- An object with a list in it, of which the second item is left open. -/
def tagged : Context :=
  .entry [("size", .int 2)] "tags" (.item [.text "NORTH"] .here [.null]) []

theorem tagged_north_told_apart :
    "NORTH" ∉ words.map (·.1) ∧
      (tagged.fill (.enum "NORTH")).literal = .ok "\x7bsize:2,tags:[\"NORTH\",NORTH,null]\x7d" ∧
      ∀ w, (tagged.fill w).literal = .ok "\x7bsize:2,tags:[\"NORTH\",NORTH,null]\x7d" →
        w = .enum "NORTH" := by
  have own : "NORTH" ∉ words.map (·.1) := by decide
  have encoded : (tagged.fill (.enum "NORTH")).literal =
      .ok "\x7bsize:2,tags:[\"NORTH\",NORTH,null]\x7d" := by rfl
  exact ⟨own, encoded, (enum_taken_for_iff "NORTH").2.2 own tagged _ encoded⟩

/-- An enum of the name `null` is accepted, and written like the absent value. -/
theorem enum_taken_for_null :
    ¬ ∀ (name : String) (w : Value) (text : String), (enum name).literal = .ok text →
      w.literal = .ok text → w = .enum name := by
  intro apart
  have same : Value.null = .enum "null" := apart "null" .null "null" (by rfl) (by rfl)
  exact absurd same nofun

end Value

end TypedQuery
