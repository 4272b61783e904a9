import TypedQuery.Proofs.Derive.Acceptance

/-!
# `output_agrees` — the table, its values and the description list the same fields

A struct is gone through three times: for the members of its description, for the fields of the table and
for the values of these. All three go by the fields that are kept, in the order of the declaration, and
each says the same name of a field, so that what is looked up by a value of the table is found under the
name of the member. A field that is left out leaves no trace: the text is that of the struct without it.

The marker of a struct with parameters comes after all fields, in the table and among its values alike.
-/

set_option autoImplicit false

namespace TypedQuery.Derive

open Token

/-- The fields that are not marked to be left out. -/
def keptFields (fields : List Field) : List Field := fields.filter fun field => !field.isSkipped

theorem plainName_marked (name : String) : plainName ("r#" ++ name) = name := by
  rw [plainName, String.toList_append]
  exact String.ofList_toList

theorem plainName_unmarked {ident : String} (unmarked : ∀ name, ident ≠ "r#" ++ name) :
    plainName ident = ident := by
  obtain ⟨mark, rfl | rfl, text⟩ := Text.exists_unmarked ident.toList
  · rw [plainName, ← List.nil_append (Text.unmarked ident.toList), ← text, String.ofList_toList]
  · have plain : (plainName ident).toList = Text.unmarked ident.toList := String.toList_ofList
    refine absurd (String.toList_inj.1 ?_) (unmarked (plainName ident))
    rw [String.toList_append, plain]
    exact text

variable {fields : List Field}

theorem keptFields_keptFields : keptFields (keptFields fields) = keptFields fields := by
  simp [keptFields]

theorem mem_keptFields {field : Field} (mem : field ∈ keptFields fields) : field ∈ fields :=
  List.mem_of_mem_filter mem

theorem selectedFields_eq (recognised : ∀ field ∈ fields, field.IsRecognised) :
    selectedFields fields =
      (keptFields fields).map fun field => (field, field.options.options) := by
  rw [selectedFields, List.filter_map, keptFields]
  congr 1
  refine List.filter_congr fun field mem => ?_
  have clean := Field.errors_options_eq_nil_iff.2 (recognised field mem)
  rw [Function.comp_apply, Field.skip_options clean]

namespace Item

variable (item : Item)

/-- The constructor of the member of a field. -/
def memberOf (field : Field) : List Token :=
  item.inLibrary ["shape", "Member", "new"] ++ [atom "::"] ++ angled (atoms ["Self", ","] ++ field.type) ++
    [paren [literal (plainName field.ident)]] ++
    match field.rename? with
    | none => []
    | some rename => [atom ".", atom "with_rename", paren [literal rename]]

/-- The declaration of a field in the table. -/
def selectorOf (field : Field) : List Token :=
  item.visibility ++ atom field.ident :: atom ":" ::
    (item.inLibrary ["shape", "FieldRef"] ++ angled item.self)

/-- The value of a field of the table. -/
def initialiserOf (field : Field) : List Token :=
  atom field.ident :: atom ":" :: (item.inLibrary ["shape", "FieldRef", "new"] ++
    [paren (item.inLibrary ["key", "FieldId", "of"] ++ atoms ["::", "<", "Self", ">"] ++
      [paren [literal (plainName field.ident)]])])

variable {item}

theorem pieces_ofFields (recognised : ∀ field ∈ fields, field.IsRecognised) :
    item.pieces (.composite (.ofFields fields)) =
      [item.table ((keptFields fields).map item.selectorOf),
        item.description ((keptFields fields).map item.memberOf)
          ((keptFields fields).map item.initialiserOf)] := by
  have members : (keptFields fields).map (fun field =>
        item.memberCode ⟨plainName field.ident, field.type, field.options.options.rename⟩) =
      (keptFields fields).map item.memberOf := by
    refine List.map_congr_left fun field mem => ?_
    have clean := Field.errors_options_eq_nil_iff.2 (recognised field (mem_keptFields mem))
    rw [Field.rename_options clean]
    rfl
  simp only [pieces, CompositeCode.ofFields, selectedFields_eq recognised, List.map_map]
  rw [← members]
  rfl

variable {code : CompositeCode}

/-- A struct of which a composite is made is not marked as a leaf, and the composite is of its fields. -/
theorem derive_named_iff (named : item.body = .named fields) :
    item.derive = .ok (.composite code) ↔
      item.Derivable ∧ item.isScalar = false ∧ code = .ofFields fields := by
  constructor
  · intro derived
    have derivable := exists_derive_iff.1 ⟨_, derived⟩
    obtain ⟨noErrors, -, body⟩ := derive_eq_ok_iff.1 derived
    rw [named, Body.generated?, scalar_options (errors_eq_nil_iff.1 noErrors).1] at body
    cases leaf : item.isScalar with
    | true => simp [leaf] at body
    | false =>
      rw [leaf] at body
      exact ⟨derivable, rfl, (Generated.composite.inj (Option.some.inj body)).symm⟩
  · rintro ⟨derivable, leaf, rfl⟩
    obtain ⟨generated, derived⟩ := exists_derive_iff.2 derivable
    obtain ⟨noErrors, -, body⟩ := derive_eq_ok_iff.1 derived
    rw [named, Body.generated?, scalar_options (errors_eq_nil_iff.1 noErrors).1, leaf] at body
    rw [derived, ← Option.some.inj body]
    rfl

/-- The struct without the fields that are left out. -/
def withKept (item : Item) (fields : List Field) : Item :=
  { item with body := .named (keptFields fields) }

theorem Derivable.withKept (derivable : item.Derivable) (named : item.body = .named fields) :
    (item.withKept fields).Derivable := by
  refine ⟨derivable.recognised, derivable.noLifetimes, ?_⟩
  have recognised := derivable.body
  rw [named] at recognised
  exact fun field mem => recognised field (mem_keptFields mem)

theorem deriveText_withKept (derived : item.derive = .ok (.composite code))
    (named : item.body = .named fields) : (item.withKept fields).deriveText = item.deriveText := by
  obtain ⟨derivable, leaf, rfl⟩ := (derive_named_iff named).1 derived
  have recognised := derivable.body
  rw [named] at recognised
  have same : CompositeCode.ofFields (keptFields fields) = .ofFields fields := by
    have kept : ∀ field ∈ keptFields fields, field.IsRecognised :=
      fun field mem => recognised field (mem_keptFields mem)
    simp only [CompositeCode.ofFields, selectedFields_eq recognised, selectedFields_eq kept,
      keptFields_keptFields]
  have again : (item.withKept fields).derive = .ok (.composite (.ofFields fields)) :=
    (derive_named_iff rfl).2 ⟨derivable.withKept named, leaf, same.symm⟩
  rw [deriveText, deriveText, derived, again]
  rfl

end Item

/-- **The generated pieces list the same fields**, those that are kept, in the order of the declaration.
    Each is called in the table as it is declared, and in the description and by its value in the table
    by its name without a mark; the member has the declared type, and the rename if there is one. -/
theorem output_agrees {item : Item} {code : CompositeCode} (named : item.body = .named fields)
    (derived : item.derive = .ok (.composite code)) :
    item.output =
      [item.table ((keptFields fields).map item.selectorOf),
        item.description ((keptFields fields).map item.memberOf)
          ((keptFields fields).map item.initialiserOf)] ∧
    item.deriveText = .ok (render (item.output.flatMap Piece.tokens)) ∧
    (item.withKept fields).deriveText = item.deriveText ∧
    ∀ field ∈ fields,
      (field.isSkipped = true ↔
        ∃ value, .named "skip" value ∈ field.attributes.flatten ∧ value.isSet = true) ∧
      (∀ name, field.ident = "r#" ++ name → plainName field.ident = name) ∧
      ((∀ name, field.ident ≠ "r#" ++ name) → plainName field.ident = field.ident) ∧
      (literal (plainName field.ident)).literal? = some (plainName field.ident) ∧
      ∀ value, .named "rename" value ∈ field.attributes.flatten ↔
        ∃ s, value = .text s ∧ field.rename? = some s ∧ (literal s).literal? = some s := by
  obtain ⟨out, text⟩ := Item.output_of_ok derived
  have omitted := Item.deriveText_withKept derived named
  obtain ⟨derivable, -, rfl⟩ := (Item.derive_named_iff named).1 derived
  have recognised : ∀ field ∈ fields, field.IsRecognised := by
    have body := derivable.body
    rw [named] at body
    exact body
  refine ⟨out.trans (Item.pieces_ofFields recognised), text, omitted, ?_⟩
  intro field mem
  refine ⟨Field.isSkipped_iff (recognised field mem), ?_, plainName_unmarked, literal?_literal _, ?_⟩
  · intro name marked
    rw [marked, plainName_marked]
  · intro value
    rw [Field.named_rename_iff (recognised field mem)]
    simp only [literal?_literal, and_true]

/-! ## A struct with a renamed, a skipped and a raw field -/

namespace film

def title : Field := ⟨"title", [.atom "String"], [[.named "rename" (.text "Title")]]⟩

def cache : Field := ⟨"cache", [.atom "T"], [[.named "skip" .word]]⟩

def kind : Field := ⟨"r#type", [.atom "String"], []⟩

def declared : List Field := [title, cache, kind]

def item : Item := ⟨"Film", [], [.type [] "T" [] none], [], [], .named declared⟩

theorem output_kept :
    item.derive = .ok (.composite (.ofFields declared)) ∧
      item.output =
        [item.table ([title, kind].map item.selectorOf),
          item.description ([title, kind].map item.memberOf) ([title, kind].map item.initialiserOf)] ∧
      (item.withKept declared).deriveText = item.deriveText ∧
      title.rename? = some "Title" ∧ plainName kind.ident = "type" := by
  have derived : item.derive = .ok (.composite (.ofFields declared)) := by rfl
  obtain ⟨out, -, omitted, each⟩ := output_agrees rfl derived
  obtain ⟨-, -, -, -, renamed⟩ := each title (by simp [declared])
  obtain ⟨s, text, rename, -⟩ := (renamed (.text "Title")).1 (by simp [title])
  obtain rfl := MetaValue.text.inj text
  obtain ⟨-, raw, -⟩ := each kind (by simp [declared])
  exact ⟨derived, out, omitted, rename, raw "type" rfl⟩

end film

end TypedQuery.Derive
