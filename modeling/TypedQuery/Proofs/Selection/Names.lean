import TypedQuery.Proofs.Query.Compositional
import TypedQuery.Proofs.Selection.Decoding

/-!
# `Named` — a selection is read back where its names are names

A text that is read as a selection has names in every place of a name, since that is all the reader
takes there (`yields_read`). So of a selection whose literals are those of values the text is read
as that selection **exactly when every name, alias and argument name in it is a name**
(`ofText?_text_iff`). Any other name is text like any text: what it says is read as punctuation, or
not at all.
-/

set_option autoImplicit false

namespace TypedQuery

variable {α : Type}

/-! ## What readers let out -/

namespace Reader

/-- All that is read has a property. -/
def Yields (read : Reader α) (P : α → Prop) : Prop :=
  ∀ cs x rest, read cs = some (x, rest) → P x

theorem yields_name : name.Yields fun n => Text.isName n.toList = true := by
  intro cs n rest read
  unfold name at read
  split at read
  · rename_i isName
    obtain ⟨rfl, rfl⟩ := Prod.mk.inj (Option.some.inj read)
    rwa [String.toList_ofList]
  · exact absurd read nofun

theorem yields_entry (value : Reader α) :
    (entry value).Yields fun e => Text.isName e.1.toList = true := by
  intro cs e rest read
  obtain ⟨⟨key, afterKey⟩, named, read⟩ := Option.bind_eq_some_iff.1 read
  obtain ⟨afterColon, -, read⟩ := Option.bind_eq_some_iff.1 read
  obtain ⟨⟨x, afterValue⟩, -, read⟩ := Option.bind_eq_some_iff.1 read
  obtain ⟨rfl, -⟩ := Prod.mk.inj (Option.some.inj read)
  exact yields_name cs key afterKey named

variable {item : Reader α} {P : α → Prop} {separator close : Char}

theorem yields_many (yields : item.Yields P) (fuel : Nat) (opening : Bool) :
    (many item separator close fuel opening).Yields fun xs => ∀ x ∈ xs, P x := by
  induction fuel generalizing opening with
  | zero => exact fun cs xs rest read => absurd read nofun
  | succ fuel ih =>
    intro cs xs rest read
    unfold many at read
    split at read
    · obtain ⟨rfl, -⟩ := Prod.mk.inj (Option.some.inj read)
      exact fun x mem => absurd mem List.not_mem_nil
    · obtain ⟨start, -, read⟩ := Option.bind_eq_some_iff.1 read
      obtain ⟨⟨x, afterItem⟩, first, read⟩ := Option.bind_eq_some_iff.1 read
      obtain ⟨⟨others, afterOthers⟩, further, read⟩ := Option.bind_eq_some_iff.1 read
      obtain ⟨rfl, -⟩ := Prod.mk.inj (Option.some.inj read)
      exact List.forall_mem_cons.2 ⟨yields _ _ _ first, ih false _ _ _ further⟩

theorem yields_list (yields : item.Yields P) :
    (list item separator close).Yields fun xs => ∀ x ∈ xs, P x :=
  fun cs => yields_many yields (cs.length + 1) true cs

end Reader

open Reader

/-! ## Selections with a property everywhere -/

/-- The head of the field and all heads below it have a property. -/
inductive SelectionField.Everywhere (P : FieldHead → Prop) : SelectionField → Prop where
  | leaf {head : FieldHead} : P head → Everywhere P (.leaf head)
  | nested {head : FieldHead} {fields : List SelectionField} : P head →
    (∀ field ∈ fields, Everywhere P field) → Everywhere P (.nested head fields)

/-- All heads of the selection have a property. -/
def SelectionSet.Everywhere (P : FieldHead → Prop) (s : SelectionSet) : Prop :=
  ∀ field ∈ s.fields, field.Everywhere P

variable {P Q : FieldHead → Prop} {s : SelectionSet}

theorem SelectionField.Everywhere.head {f : SelectionField} (h : f.Everywhere P) : P f.head := by
  cases h with
  | leaf here => exact here
  | nested here _ => exact here

theorem SelectionField.Everywhere.selection {f : SelectionField} (h : f.Everywhere P)
    {sub : SelectionSet} (selected : f.selection = some sub) : sub.Everywhere P := by
  cases h with
  | leaf _ => exact absurd selected nofun
  | nested _ below =>
    obtain rfl := Option.some.inj selected
    exact below

/-- Below a field the places are those of its selection, behind its own. -/
theorem SelectionSet.fieldAt?_cons {k : Nat} {f g : SelectionField} {sub : SelectionSet}
    {places : List Nat} (here : s.fields[k]? = some f) (selected : f.selection = some sub)
    (found : sub.fieldAt? places = some g) : s.fieldAt? (k :: places) = some g := by
  cases places with
  | nil => exact absurd found nofun
  | cons k' rest =>
    unfold fieldAt?
    rw [here, Option.bind_some, selected]
    exact found

/-- **A field has the property everywhere if its places have it.** The induction is on the tree. -/
theorem SelectionField.everywhere_of_places (f : SelectionField) (here : P f.head)
    (below : ∀ sub, f.selection = some sub → ∀ places g, sub.fieldAt? places = some g → P g.head) :
    f.Everywhere P := by
  match f with
  | .leaf head => exact .leaf here
  | .nested head fields =>
    refine .nested here fun g mem => ?_
    obtain ⟨k, hk⟩ := List.getElem?_of_mem mem
    refine everywhere_of_places g (below ⟨fields⟩ rfl [k] g hk) ?_
    intro sub selected places g' found
    exact below ⟨fields⟩ rfl (k :: places) g' (SelectionSet.fieldAt?_cons hk selected found)
termination_by sizeOf f
decreasing_by
  have smaller := List.sizeOf_lt_of_mem mem
  simp only [SelectionField.nested.sizeOf_spec]
  omega

theorem SelectionSet.everywhere_iff :
    s.Everywhere P ↔ ∀ places f, s.fieldAt? places = some f → P f.head := by
  constructor
  · intro everywhere places f found
    induction places generalizing s with
    | nil => exact absurd found nofun
    | cons k rest ih =>
      cases rest with
      | nil => exact (everywhere f (List.mem_of_getElem? found)).head
      | cons k' rest =>
        obtain ⟨g, here, deeper⟩ := Option.bind_eq_some_iff.1 found
        obtain ⟨sub, selected, deeper⟩ := Option.bind_eq_some_iff.1 deeper
        exact ih ((everywhere g (List.mem_of_getElem? here)).selection selected) deeper
  · intro places field mem
    obtain ⟨k, hk⟩ := List.getElem?_of_mem mem
    refine field.everywhere_of_places (places [k] field hk) ?_
    intro sub selected rest g found
    exact places (k :: rest) g (fieldAt?_cons hk selected found)

theorem SelectionField.wellFormed_of_everywhere {f : SelectionField}
    (h : f.Everywhere FieldHead.WellFormed) : f.WellFormed := by
  induction h with
  | leaf here => exact .leaf here
  | nested here _ ih => exact .nested here ih

theorem SelectionSet.wellFormed_of_everywhere (h : s.Everywhere FieldHead.WellFormed) :
    s.WellFormed := fun f mem => SelectionField.wellFormed_of_everywhere (h f mem)

/-! ## Names that are names -/

/-- All names of a head are names. -/
structure FieldHead.Named (h : FieldHead) : Prop where
  name : Text.isName h.name.toList = true
  aliasName : ∀ aliasName ∈ h.aliasName, Text.isName aliasName.toList = true
  arguments : ∀ argument ∈ h.arguments, Text.isName argument.1.toList = true

/-- The arguments of a head have the literals of values. -/
def FieldHead.HasLiterals (h : FieldHead) : Prop :=
  ∀ argument ∈ h.arguments, ∃ v : Value, v.literal = .ok argument.2

theorem FieldHead.Named.wellFormed {h : FieldHead} (named : h.Named) (literals : h.HasLiterals) :
    h.WellFormed :=
  ⟨named.name, named.aliasName, fun argument mem =>
    ⟨named.arguments argument mem, literals argument mem⟩⟩

namespace FieldHead

theorem yields_alias :
    readAlias.Yields fun a => ∀ aliasName ∈ a, Text.isName aliasName.toList = true := by
  intro cs a rest read
  unfold readAlias at read
  split at read
  · obtain ⟨r, named, given⟩ := Option.map_eq_some_iff.1 read
    obtain ⟨rfl, -⟩ := Prod.mk.inj given
    intro aliasName mem
    obtain rfl := Option.some.inj mem
    exact yields_name _ _ _ named
  · obtain ⟨rfl, -⟩ := Prod.mk.inj (Option.some.inj read)
    exact fun aliasName mem => absurd mem nofun

theorem yields_arguments :
    readArguments.Yields fun arguments =>
      ∀ argument ∈ arguments, Text.isName argument.1.toList = true := by
  intro cs arguments rest read
  unfold readArguments at read
  split at read
  · obtain ⟨listed, -⟩ := Option.filter_eq_some_iff.1 read
    exact yields_list (yields_entry Literal.readRaw) _ _ _ listed
  · obtain ⟨rfl, -⟩ := Prod.mk.inj (Option.some.inj read)
    exact fun argument mem => absurd mem List.not_mem_nil

theorem yields_read : read.Yields Named := by
  intro cs h rest read
  obtain ⟨⟨name, afterName⟩, named, read⟩ := Option.bind_eq_some_iff.1 read
  obtain ⟨⟨aliasName, afterAlias⟩, aliased, read⟩ := Option.bind_eq_some_iff.1 read
  obtain ⟨⟨arguments, afterArguments⟩, supplied, read⟩ := Option.bind_eq_some_iff.1 read
  obtain ⟨rfl, -⟩ := Prod.mk.inj (Option.some.inj read)
  exact ⟨yields_name _ _ _ named, yields_alias _ _ _ aliased, yields_arguments _ _ _ supplied⟩

end FieldHead

theorem SelectionField.yields_readWithin (depth : Nat) :
    (readWithin depth).Yields (Everywhere FieldHead.Named) := by
  induction depth with
  | zero => exact fun cs field rest read => absurd read nofun
  | succ depth ih =>
    intro cs field rest read
    obtain ⟨⟨head, afterHead⟩, headed, read⟩ := Option.bind_eq_some_iff.1 read
    have named : head.Named := FieldHead.yields_read _ _ _ headed
    split at read
    · obtain ⟨r, listed, given⟩ := Option.map_eq_some_iff.1 read
      obtain ⟨rfl, -⟩ := Prod.mk.inj given
      exact .nested named (yields_list ih _ _ _ listed)
    · obtain ⟨rfl, -⟩ := Prod.mk.inj (Option.some.inj read)
      exact .leaf named

theorem SelectionSet.named_of_ofText? {text : String} (decoded : ofText? text = some s) :
    s.Everywhere FieldHead.Named := by
  obtain ⟨inside, -, decoded⟩ := Option.bind_eq_some_iff.1 decoded
  obtain ⟨⟨fields, rest⟩, listed, decoded⟩ := Option.bind_eq_some_iff.1 decoded
  split at decoded
  · obtain rfl := Option.some.inj decoded
    exact yields_list (SelectionField.yields_readWithin inside.length) _ _ _ listed
  · exact absurd decoded nofun

/-- **A selection is read back from its text exactly when all its names are names.** -/
theorem SelectionSet.ofText?_text_iff (literals : s.Everywhere FieldHead.HasLiterals) :
    ofText? s.text = some s ↔ s.Everywhere FieldHead.Named := by
  constructor
  · exact named_of_ofText?
  · intro named
    apply ofText?_text
    apply wellFormed_of_everywhere
    apply everywhere_iff.2
    intro places f found
    have headNamed := everywhere_iff.1 named places f found
    exact headNamed.wellFormed (everywhere_iff.1 literals places f found)

end TypedQuery
