import TypedQuery.Proofs.Naming.Camel
import TypedQuery.Proofs.Naming.LetterCase
import TypedQuery.Proofs.Query.Compositional

/-!
# `Merges` — which declared names become one field name

Members of one composite have different declared names, and under any policy but the one that keeps
names as they are two of them may still give the same field name. On names this is decided by what the
policy reads of a name (`apply_eq_iff`): camel case reads its letters and digits without their case,
and which of the letters follow an underscore. `item_1` and `item1` agree in both.

A selection may therefore have several fields of one name, and asking for the name gives the first of
them: **`fieldNames_distinct_iff`** says when that happens and what it does.
-/

set_option autoImplicit false

namespace TypedQuery.Text

variable {c d : Char} {cs ds : List Char} {after after' : Bool}

/-- The letters and digits of a text, case aside. -/
def bare (cs : List Char) : List Char := (cs.filter (· != '_')).map Char.toLower

/-- Of each letter and digit, whether it is a letter that follows an underscore. -/
def raisedAt (after : Bool) : List Char → List Bool
  | [] => []
  | c :: rest =>
    if c = '_' then raisedAt true rest else (after && c.isAlpha) :: raisedAt false rest

theorem map_toLower_humped (after : Bool) (cs : List Char) :
    (humped after cs).map Char.toLower = bare cs := by
  induction cs generalizing after with
  | nil => rfl
  | cons c rest ih =>
    by_cases separator : c = '_'
    · subst separator
      rw [humped_underscore, ih]
      simp [bare]
    · rw [humped_of_ne after separator, List.map_cons, ih]
      cases after <;> simp [bare, separator]

theorem map_isUpper_humped (after : Bool) (cs : List Char) :
    (humped after cs).map Char.isUpper = raisedAt after cs := by
  induction cs generalizing after with
  | nil => rfl
  | cons c rest ih =>
    by_cases separator : c = '_'
    · subst separator
      rw [humped_underscore, ih]
      simp [raisedAt]
    · rw [humped_of_ne after separator, List.map_cons, ih]
      cases after <;> simp [raisedAt, separator]

/-- Two texts agree in camel case where their letters and digits do and the same are raised. -/
theorem humped_eq_iff :
    humped after cs = humped after' ds ↔ bare cs = bare ds ∧ raisedAt after cs = raisedAt after' ds := by
  rw [← map_toLower_humped after, ← map_toLower_humped after', ← map_isUpper_humped,
    ← map_isUpper_humped]
  constructor
  · intro same
    rw [same]
    exact ⟨rfl, rfl⟩
  · rintro ⟨letters, case⟩
    exact eq_of_map_toLower_eq letters case

theorem modifyHead_toLower_eq_iff : cs.modifyHead Char.toLower = ds.modifyHead Char.toLower ↔
    cs.head?.map Char.toLower = ds.head?.map Char.toLower ∧ cs.tail = ds.tail := by
  cases cs with
  | nil => cases ds <;> simp
  | cons c rest => cases ds <;> simp

end TypedQuery.Text

namespace TypedQuery

namespace FieldCase

open Text

/-- Two names are the same to a policy. -/
def Merges (case : FieldCase) (name name' : String) : Prop :=
  match case with
  | camel => bare name.toList = bare name'.toList ∧
      raisedAt false name.toList = raisedAt false name'.toList
  | lowerFirst => name.toList.head?.map Char.toLower = name'.toList.head?.map Char.toLower ∧
      name.toList.tail = name'.toList.tail
  | preserve => name = name'

instance : (case : FieldCase) → (name name' : String) → Decidable (case.Merges name name')
  | camel, _, _ => inferInstanceAs (Decidable (_ ∧ _))
  | lowerFirst, _, _ => inferInstanceAs (Decidable (_ ∧ _))
  | preserve, name, name' => inferInstanceAs (Decidable (name = name'))

/-- Names become one field name exactly where they are the same to the policy. -/
theorem apply_eq_iff {case : FieldCase} {name name' : String} (named : isName name.toList = true)
    (named' : isName name'.toList = true) :
    case.apply name = case.apply name' ↔ case.Merges name name' := by
  rw [← String.toList_inj, toList_apply named, toList_apply named']
  cases case with
  | camel => exact humped_eq_iff
  | lowerFirst => exact modifyHead_toLower_eq_iff
  | preserve => exact String.toList_inj

end FieldCase

/-! ## The fields of a composite -/

/-- A name finds the field at its first place among the names. -/
theorem SelectionSet.field?_eq (set : SelectionSet) (name : String) :
    set.field? name = set.fields[(set.fields.map SelectionField.name).idxOf name]? := by
  unfold SelectionSet.field?
  induction set.fields with
  | nil => rfl
  | cons f fields ih =>
    rw [List.map_cons, List.idxOf_cons]
    by_cases here : f.name = name
    · simp [here]
    · rw [List.find?_cons_of_neg (by simpa using here), ih, beq_false_of_ne here]
      rfl

namespace Expansion

open Text

variable {S : Schema} {e : Expansion S} {stack : List TypeKey} {path : List String} {i : S.Ref}
  {set : SelectionSet}

/-- The fields of an expansion have the names of their members' heads. -/
theorem map_name_of_expand (done : e.expand stack path i = .ok set) :
    set.fields.map SelectionField.name =
      (S.descriptor i).members.map fun m => (e.fieldHead m).name := by
  obtain ⟨-, fields⟩ := e.expand_eq_ok_iff.1 done
  have heads : List.Forall₂ (fun m f => (e.fieldHead m).name = SelectionField.name f)
      (S.descriptor i).members set.fields := by
    refine fields.imp fun m f hf => ?_
    obtain ⟨selection, -, rfl⟩ := e.field_eq_ok_iff.1 hf
    rw [SelectionField.name, SelectionField.head_make]
  rw [← List.forall₂_eq_eq_eq, List.forall₂_map_left_iff, List.forall₂_map_right_iff]
  exact heads.flip.imp fun f m same => same.symm

/-- **When field names are distinct, and what they find.** In the selection of a composite without
    renamed members no two fields have one name exactly if the policy gives no two members one field
    name, which for names it does where they are the same to it. A field name finds the field at its
    first place; so it finds every member where they are distinct, and elsewhere the first of those
    that share it. -/
theorem fieldNames_distinct_iff (done : e.expand stack path i = .ok set)
    (unrenamed : ∀ m ∈ (S.descriptor i).members, m.rename = none) :
    let fieldName (m : Member S.size) : String := e.config.fieldCase.apply m.name
    ((set.fields.map SelectionField.name).Nodup ↔
      (S.descriptor i).members.Pairwise fun m m' => fieldName m ≠ fieldName m') ∧
    (∀ m ∈ (S.descriptor i).members, ∀ m' ∈ (S.descriptor i).members,
      isName m.name.toList = true → isName m'.name.toList = true →
      (fieldName m = fieldName m' ↔ e.config.fieldCase.Merges m.name m'.name)) ∧
    (∀ name,
      set.field? name = set.fields[((S.descriptor i).members.map fieldName).idxOf name]?) ∧
    ((set.fields.map SelectionField.name).Nodup → ∀ (k : Nat) (m : Member S.size),
      (S.descriptor i).members[k]? = some m → set.field? (fieldName m) = set.fields[k]?) := by
  intro fieldName
  have names : set.fields.map SelectionField.name = (S.descriptor i).members.map fieldName := by
    rw [map_name_of_expand done]
    apply List.map_congr_left
    intro m mem
    rw [fieldHead, unrenamed m mem]
    rfl
  have found : ∀ name,
      set.field? name = set.fields[((S.descriptor i).members.map fieldName).idxOf name]? := by
    intro name
    rw [set.field?_eq, names]
  refine ⟨?_, ?_, found, ?_⟩
  · rw [names, List.Nodup, List.pairwise_map]
  · intro m _ m' _ named named'
    exact FieldCase.apply_eq_iff named named'
  · intro distinct k m hm
    rw [names] at distinct
    have hk : ((S.descriptor i).members.map fieldName)[k]? = some (fieldName m) := by
      rw [List.getElem?_map, hm]
      rfl
    obtain ⟨lt, here⟩ := List.getElem?_eq_some_iff.1 hk
    rw [found, ← here, distinct.idxOf_getElem k lt]

end Expansion

/-- Invoices with two items of nearly one name and a total. -/
def invoices : Schema :=
  let amount : Fin 2 := ⟨0, Nat.two_pos⟩
  .ofDeclarations ![(Builtin.int32.key, .scalar), (⟨23, "Invoice"⟩, .composite
    [⟨⟨⟨23, "Invoice"⟩, "item_1"⟩, none, amount⟩, ⟨⟨⟨23, "Invoice"⟩, "item1"⟩, none, amount⟩,
      ⟨⟨⟨23, "Invoice"⟩, "total_due"⟩, none, amount⟩])]

namespace invoices

def invoice : invoices.Ref := Fin.last 1

/-- An expansion under a policy, with an alias for the second item. -/
def expansion (case : FieldCase) : Expansion invoices :=
  ⟨.builtin, Metadata.empty.setAlias ⟨⟨23, "Invoice"⟩, "item1"⟩ "second", [], ⟨case⟩⟩

/-- What is selected of an invoice under a policy. -/
def selection (case : FieldCase) : SelectionSet :=
  ⟨[.leaf ⟨case.apply "item_1", none, []⟩, .leaf ⟨case.apply "item1", some "second", []⟩,
    .leaf ⟨case.apply "total_due", none, []⟩]⟩

theorem expand_invoice (case : FieldCase) :
    (expansion case).expand [] [] invoice = .ok (selection case) := by
  rw [Expansion.expand_eq_mapM _ rfl]
  rfl

theorem unrenamed : ∀ m ∈ (invoices.descriptor invoice).members, m.rename = none := by
  decide

/-- Where names stay as they are, each finds its own field. -/
theorem kept_names_distinct :
    (expansion .preserve).expand [] [] invoice = .ok (selection .preserve) ∧
      ((selection .preserve).fields.map SelectionField.name).Nodup ∧
      (selection .preserve).field? "item1" = (selection .preserve).fields[1]? := by
  have done := expand_invoice .preserve
  obtain ⟨-, -, -, each⟩ := Expansion.fieldNames_distinct_iff done unrenamed
  have distinct : ((selection .preserve).fields.map SelectionField.name).Nodup := by decide
  exact ⟨done, distinct, each distinct 1 _ rfl⟩

/-- In camel case the two items become one name, which finds the first of them. -/
theorem items_share_a_name :
    (((invoices.descriptor invoice).members.map Member.name).Nodup ∧
      ∀ m ∈ (invoices.descriptor invoice).members, m.rename = none) ∧
    (expansion .camel).expand [] [] invoice = .ok (selection .camel) ∧
    ¬ ((selection .camel).fields.map SelectionField.name).Nodup ∧
    ((selection .camel).field? "item1").map SelectionField.aliasName = some none ∧
    (selection .camel).fields[1]?.map SelectionField.aliasName = some (some "second") := by
  refine ⟨⟨by decide, unrenamed⟩, expand_invoice .camel, by decide, by decide, by decide⟩

end invoices

end TypedQuery
