import Mathlib.Data.List.Nodup
import TypedQuery.Proofs.Derive.Agreement

/-!
# `declaredNames` — the names of a generated table

The table of a struct declares a field for each one that is kept and, if the struct has parameters, the
marker after them; its values are listed under the same names in the same order. Fields of a struct have
different names, and so do the fields of the table as long as the marker's name is not among them. Nothing
keeps a struct from having a field of that name. `tableNames_nodup_iff` says that this is the one way in
which a name comes twice.

Names are compared as a compiler does, without the marks of raw identifiers.
-/

set_option autoImplicit false

namespace TypedQuery.Derive

open Token

/-- A field of a generated struct: what stands in front of its name, its name, and its type. -/
structure FieldCode where
  front : List Token
  name : String
  type : List Token

/-- A field among the values of a generated struct. -/
structure ValueCode where
  name : String
  value : List Token

def FieldCode.tokens (field : FieldCode) : List Token :=
  field.front ++ atom field.name :: atom ":" :: field.type

def ValueCode.tokens (field : ValueCode) : List Token :=
  atom field.name :: atom ":" :: field.value

/-- The fields of a struct, of which there are none unless they have names. -/
def Body.structFields : Body → List Field
  | named fields => fields
  | _ => []

namespace Item

variable (item : Item)

def markerType : List Token := pathTo [] ["core", "marker", "PhantomData"]

/-- The fields that the table declares. -/
def tableFields : List FieldCode :=
  (keptFields item.body.structFields).map (fun field =>
    ⟨item.visibility, field.ident, item.inLibrary ["shape", "FieldRef"] ++ angled item.self⟩) ++
  if item.hasMarker then
    [⟨[atom "#", bracket [atom "doc", paren [atom "hidden"]]] ++ item.visibility, markerName,
      markerType ++ angled (atom "fn" :: paren [] :: atom "->" :: item.self)⟩]
  else []

/-- The values that its fields are given. -/
def tableValues : List ValueCode :=
  (keptFields item.body.structFields).map (fun field =>
    ⟨field.ident, item.inLibrary ["shape", "FieldRef", "new"] ++
      [paren (item.inLibrary ["key", "FieldId", "of"] ++ atoms ["::", "<", "Self", ">"] ++
        [paren [literal (plainName field.ident)]])]⟩) ++
  if item.hasMarker then [⟨markerName, markerType⟩] else []

def declaredNames : List String := item.tableFields.map fun field => plainName field.name

def initialisedNames : List String := item.tableValues.map fun field => plainName field.name

/-- The description of a composite, given all values of its table. -/
def describing (members values : List (List Token)) : Piece :=
  item.implementation item.shapeTrait item.self item.shapeTrait
    (item.descriptionBody item.tableType
      (item.inLibrary ["shape", "TypeDescriptor", "composite"] ++ atoms ["::", "<", "Self", ">"] ++
        [paren (pathTo [] ["std", "vec"] ++ [atom "!", bracket (joined "," members)])])
      [atom item.tableName, brace (terminated "," values)])

/-- The name of the marker is not that of a field that is kept. -/
def MarkerIsFree : Prop :=
  item.generics = [] ∨
    ∀ field ∈ item.body.structFields, field.isSkipped = false → plainName field.ident ≠ "__shape"

variable {item}

theorem tokens_tableFields :
    item.tableFields.map FieldCode.tokens =
      (keptFields item.body.structFields).map item.selectorOf ++ item.marker := by
  rw [tableFields, List.map_append, List.map_map, marker]
  congr 1
  split_ifs
  · simp [FieldCode.tokens, markerType, atoms]
  · rfl

theorem tokens_tableValues :
    item.tableValues.map ValueCode.tokens =
      (keptFields item.body.structFields).map item.initialiserOf ++ item.markerValue := by
  rw [tableValues, List.map_append, List.map_map, markerValue]
  congr 1
  split_ifs
  · rfl
  · rfl

theorem plainName_markerName : plainName markerName = markerName := by
  decide

theorem declaredNames_eq :
    item.declaredNames = (keptFields item.body.structFields).map (fun field => plainName field.ident) ++
      if item.hasMarker then [markerName] else [] := by
  rw [declaredNames, tableFields, List.map_append, List.map_map]
  split_ifs
  · rw [List.map_singleton, plainName_markerName]
    rfl
  · rfl

theorem initialisedNames_eq : item.initialisedNames = item.declaredNames := by
  rw [declaredNames_eq, initialisedNames, tableValues, List.map_append, List.map_map]
  split_ifs
  · rw [List.map_singleton, plainName_markerName]
    rfl
  · rfl

theorem nodup_declaredNames_iff
    (distinct : (item.body.structFields.map fun field => plainName field.ident).Nodup) :
    item.declaredNames.Nodup ↔ item.MarkerIsFree := by
  have kept : ((keptFields item.body.structFields).map fun field => plainName field.ident).Nodup :=
    distinct.sublist (List.filter_sublist.map _)
  rw [declaredNames_eq, MarkerIsFree, ← List.isEmpty_iff]
  cases none : item.generics.isEmpty with
  | true => simpa [hasMarker, none] using kept
  | false =>
    have free : markerName ∉ (keptFields item.body.structFields).map (fun field => plainName field.ident) ↔
        ∀ field ∈ item.body.structFields, field.isSkipped = false → plainName field.ident ≠ "__shape" := by
      simp [keptFields, markerName]
    simp only [hasMarker, none, Bool.not_false, if_true, Bool.false_eq_true, false_or]
    rw [List.nodup_append_comm, List.singleton_append, List.nodup_cons, free]
    exact and_iff_left kept

/-- A composite is made of a struct, and of its fields. -/
theorem exists_composite {code : CompositeCode} (derived : item.derive = .ok (.composite code)) :
    code = .ofFields item.body.structFields ∧ ∀ field ∈ item.body.structFields, field.IsRecognised := by
  obtain ⟨noErrors, -, generated⟩ := derive_eq_ok_iff.1 derived
  have derivable := (exists_derive_iff.1 ⟨_, derived⟩).body
  cases body : item.body with
  | named fields =>
    rw [body] at derivable
    exact ⟨((derive_named_iff body).1 derived).2.2, derivable⟩
  | unit =>
    rw [body, Body.generated?] at generated
    split_ifs at generated
    · simp at generated
    · simp at generated
      exact ⟨generated.symm, by simp [Body.structFields]⟩
  | tuple fields =>
    rw [body, Body.generated?] at generated
    split_ifs at generated
    simp at generated
  | enum variants => simp [body, Body.generated?] at generated
  | union fields => simp [body, Body.generated?] at generated

theorem output_composite {code : CompositeCode} (derived : item.derive = .ok (.composite code)) :
    item.output =
      [.table item.tableHead (item.tableFields.map FieldCode.tokens),
        item.describing ((keptFields item.body.structFields).map item.memberOf)
          (item.tableValues.map ValueCode.tokens)] := by
  obtain ⟨rfl, recognised⟩ := exists_composite derived
  rw [(output_of_ok derived).1, pieces_ofFields recognised, tokens_tableFields, tokens_tableValues]
  rfl

end Item

/-- **The names of a table are distinct exactly if none of its fields is called like the marker.** What is
    written for a struct is the table with the fields it declares and the description with the values of
    these, and both list the same names in the same order. If the fields of the struct have different
    names, so have those of the table, and each is given one value, unless the struct has parameters and
    keeps a field of the marker's name. -/
theorem tableNames_nodup_iff {item : Item} {code : CompositeCode}
    (derived : item.derive = .ok (.composite code))
    (distinct : (item.body.structFields.map fun field => plainName field.ident).Nodup) :
    (item.output =
        [.table item.tableHead (item.tableFields.map FieldCode.tokens),
          item.describing ((keptFields item.body.structFields).map item.memberOf)
            (item.tableValues.map ValueCode.tokens)] ∧
      item.deriveText = .ok (render (item.output.flatMap Piece.tokens))) ∧
    item.initialisedNames = item.declaredNames ∧
    (item.declaredNames.Nodup ↔ item.MarkerIsFree) ∧
    ((∀ name ∈ item.declaredNames, item.initialisedNames.count name = 1) ↔ item.MarkerIsFree) := by
  have names := Item.nodup_declaredNames_iff distinct
  refine ⟨⟨Item.output_composite derived, (Item.output_of_ok derived).2⟩, Item.initialisedNames_eq, names, ?_⟩
  rw [← names, Item.initialisedNames_eq, List.nodup_iff_count_eq_one]

/-! ## A struct with a field that is called like the marker -/

namespace page

def items : Field := ⟨"items", [.atom "Vec", .atom "<", .atom "T", .atom ">"], []⟩

def kind : Field := ⟨"r#type", [.atom "String"], []⟩

/-- Called like the marker, and left out. -/
def hidden : Field := ⟨"__shape", [.atom "u8"], [[.named "skip" .word]]⟩

/-- Called like the marker, and kept. -/
def shown : Field := ⟨"__shape", [.atom "T"], []⟩

def item (fields : List Field) : Item := ⟨"Page", [], [.type [] "T" [] none], [], [], .named fields⟩

theorem names_distinct :
    (item [items, kind, hidden]).derive = .ok (.composite (.ofFields [items, kind, hidden])) ∧
      (item [items, kind, hidden]).declaredNames = ["items", "type", "__shape"] ∧
      (item [items, kind, hidden]).declaredNames.Nodup := by
  have derived : (item [items, kind, hidden]).derive =
      .ok (.composite (.ofFields [items, kind, hidden])) := by rfl
  have distinct : (([items, kind, hidden] : List Field).map fun field => plainName field.ident).Nodup := by
    decide
  have free : (item [items, kind, hidden]).MarkerIsFree := by
    refine Or.inr fun field mem => ?_
    simp only [item, Body.structFields, List.mem_cons, List.not_mem_nil, or_false] at mem
    rcases mem with rfl | rfl | rfl <;> decide
  exact ⟨derived, by rfl, (tableNames_nodup_iff derived distinct).2.2.1.2 free⟩

theorem marker_declared_twice :
    ¬ ∀ (item : Item) (code : CompositeCode), item.derive = .ok (.composite code) →
      (item.body.structFields.map fun field => plainName field.ident).Nodup →
      item.declaredNames.Nodup := by
  intro apart
  have names : (item [shown]).declaredNames = ["__shape", "__shape"] := by rfl
  have twice : (item [shown]).declaredNames.Nodup := apart (item [shown]) _ (by rfl) (by decide)
  rw [names] at twice
  exact absurd twice (by decide)

end page

end TypedQuery.Derive
