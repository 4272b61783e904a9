import TypedQuery.Proofs.Derive.Attributes
import TypedQuery.Proofs.Derive.Pieces
import TypedQuery.Proofs.Derive.Words

/-!
# `Derivable` — which items a description is derived for, and what is written for the others

The derive looks at an item in stages: its attributes, its shape and the attributes in its body, then its
lifetimes, then whether its body is one that can be described. `Derivable` says in one place what all
stages let through, and `exists_derive_iff` that it is exactly that. So no stage is partly passed: what is
written is a description and no error, or errors and nothing else (`output_all_or_nothing`).
-/

set_option autoImplicit false

namespace TypedQuery.Derive

open Token Outcome

theorem Reading.Gives.unique {α : Type} {r : Reading α} {a b : α} (left : r.Gives a)
    (right : r.Gives b) : a = b := by
  simpa using left.symm.trans right

/-! ## Bodies -/

theorem Variant.unsupported?_eq_none_iff {variant : Variant} :
    variant.unsupported? = none ↔ variant.style = .unit := by
  unfold Variant.unsupported?
  cases variant.style <;> simp

namespace Body

/-- The attributes are recognised where they stand, and the shape can be described; that of a tuple
    only where it is marked as a leaf. -/
def Derivable (scalar : Bool) : Body → Prop
  | named fields => ∀ field ∈ fields, field.IsRecognised
  | tuple fields => scalar = true ∧ ∀ field ∈ fields, field.IsRecognised
  | unit => True
  | enum variants => ∀ variant ∈ variants, variant.style = .unit ∧ variant.IsRecognised
  | union _ => False

/-- What is generated for a body without errors. -/
def generated? (scalar : Bool) : Body → Option Generated
  | named fields => some (if scalar then .scalar else .composite (.ofFields fields))
  | tuple _ => if scalar then some .scalar else none
  | unit => some (if scalar then .scalar else .composite (.ofFields []))
  | enum variants => some (.enum (variants.map Arm.ofVariant))
  | union _ => none

variable {body : Body} {variants : List Variant}

theorem errors_eq_nil_iff : body.errors = [] ↔ body.shapeErrors = [] ∧ body.attributeErrors = [] := by
  unfold errors
  cases body.shapeErrors <;> simp

theorem enum_clean_iff :
    (enum variants).errors = [] ↔
      ∀ variant ∈ variants, variant.style = .unit ∧ variant.IsRecognised := by
  rw [errors_eq_nil_iff]
  simp only [shapeErrors, attributeErrors, List.filterMap_eq_nil_iff, List.flatMap_eq_nil_iff,
    Variant.unsupported?_eq_none_iff, Variant.errors_options_eq_nil_iff]
  exact forall₂_and.symm

theorem derivable_iff {scalar : Bool} :
    body.Derivable scalar ↔
      body.errors = [] ∧ ∃ generated, body.generated? scalar = some generated := by
  cases body with
  | named fields =>
    simp [Derivable, generated?, errors_eq_nil_iff, shapeErrors, attributeErrors,
      Field.errors_options_eq_nil_iff]
  | tuple fields =>
    cases scalar <;> simp [Derivable, generated?, errors_eq_nil_iff, shapeErrors, attributeErrors,
      Field.errors_options_eq_nil_iff]
  | unit => simp [Derivable, generated?, errors_eq_nil_iff, shapeErrors, attributeErrors]
  | enum variants => simp [Derivable, generated?, enum_clean_iff]
  | union fields => simp [Derivable, generated?]

end Body

/-! ## Items -/

namespace Item

/-- The item can be described: its attributes are recognised, it has no lifetime parameters, and its
    body can be described. -/
structure Derivable (item : Item) : Prop where
  recognised : item.IsRecognised
  noLifetimes : ∀ param ∈ item.generics, param.isLifetime = false
  body : item.body.Derivable item.isScalar

variable {item : Item} {generated : Generated}

theorem errors_eq_nil_iff : item.errors = [] ↔ item.options.errors = [] ∧ item.body.errors = [] := by
  simp [errors]

/-- What the stages let through, and what comes out. -/
theorem derive_eq_ok_iff :
    item.derive = .ok generated ↔ item.errors = [] ∧ item.generics.any (·.isLifetime) = false ∧
      item.body.generated? item.options.options.scalar = some generated := by
  unfold derive
  cases noErrors : item.errors with
  | cons e rest => simp
  | nil =>
    cases item.generics.any (·.isLifetime) with
    | true => simp
    | false =>
      cases item.body <;> cases item.options.options.scalar <;> simp [Body.generated?]

/-- **An item is described exactly if it is derivable.** -/
theorem exists_derive_iff : (∃ generated, item.derive = .ok generated) ↔ item.Derivable := by
  constructor
  · rintro ⟨generated, derived⟩
    obtain ⟨noErrors, noLifetimes, body⟩ := derive_eq_ok_iff.1 derived
    obtain ⟨clean, bodyClean⟩ := errors_eq_nil_iff.1 noErrors
    refine ⟨errors_options_eq_nil_iff.1 clean, ?_, ?_⟩
    · simpa using noLifetimes
    · rw [← scalar_options clean]
      exact Body.derivable_iff.2 ⟨bodyClean, generated, body⟩
  · rintro ⟨recognised, noLifetimes, body⟩
    have clean := errors_options_eq_nil_iff.2 recognised
    rw [← scalar_options clean] at body
    obtain ⟨bodyClean, generated, body⟩ := Body.derivable_iff.1 body
    refine ⟨generated, derive_eq_ok_iff.2 ⟨errors_eq_nil_iff.2 ⟨clean, bodyClean⟩, ?_, body⟩⟩
    simpa using noLifetimes

theorem derive_ne_error_nil : item.derive ≠ .error [] := by
  unfold derive
  cases noErrors : item.errors with
  | cons e rest => simp
  | nil =>
    cases item.generics.any (·.isLifetime) with
    | true => simp
    | false => cases item.body <;> cases item.options.options.scalar <;> simp

end Item

/-! ## What is written -/

/-- The literal that a variant is converted into. -/
def Variant.literal (variant : Variant) : String := variant.rename?.getD (plainName variant.ident)

namespace Item

/-- The arm of a variant. -/
def armOf (item : Item) (variant : Variant) : List Token :=
  [atom item.ident, atom "::", atom variant.ident, atom "=>", Derive.literal variant.literal]

/-- The item is described once and without errors. An enum with variants is moreover converted, by value
    and by reference, with one arm for each variant in order. -/
structure Described (item : Item) (out : List Piece) : Prop where
  noErrors : ∀ piece ∈ out, piece.error? = none
  once : ∃ others, Piece.implementations out = (item.shapeTrait, item.self) :: others ∧
    ∀ other ∈ others, other.1 ≠ item.shapeTrait
  converted : ∀ variants, item.body = .enum variants → variants ≠ [] →
    out = [item.leaf, item.conversion (variants.map item.armOf) item.self,
      item.conversion (variants.map item.armOf) (atom "&" :: item.self)]
  literals : ∀ variants, item.body = .enum variants → ∀ variant ∈ variants,
    (Derive.literal variant.literal).literal? = some variant.literal ∧
      ∀ value, .named "rename" value ∈ variant.attributes.flatten ↔
        ∃ s, value = .text s ∧ variant.rename? = some s

variable {item : Item} {generated : Generated} {variants : List Variant}

theorem armCode_ofVariant {variant : Variant} (recognised : variant.IsRecognised) :
    item.armCode (.ofVariant variant) = item.armOf variant := by
  have rename := Variant.rename_options (Variant.errors_options_eq_nil_iff.2 recognised)
  rw [armCode, armOf, Variant.literal, Arm.ofVariant, rename]
  rfl

/-- The trait of a conversion ends in a bracket and no path does. -/
theorem conversionTrait_ne (source : List Token) :
    pathTo [] ["core", "convert", "From"] ++ angled source ≠ item.shapeTrait := by
  intro same
  have bracket : (pathTo [] ["core", "convert", "From"] ++ angled source).getLast? =
      some (atom ">") := by
    rw [angled, ← List.append_assoc]
    exact List.getLast?_concat
  have name : item.shapeTrait.getLast? = some (atom "Shape") := by
    simp [shapeTrait, inLibrary, pathTo]
  rw [same, name] at bracket
  simp at bracket

theorem error?_pieces : ∀ piece ∈ item.pieces generated, piece.error? = none := by
  cases generated with
  | composite code => simp [pieces, table, description, implementation, Piece.error?]
  | scalar => simp [pieces, leaf, implementation, Piece.error?]
  | enum arms =>
    simp only [pieces]
    split_ifs <;> simp [leaf, conversion, implementation, Piece.error?]

theorem implementations_pieces :
    ∃ others, Piece.implementations (item.pieces generated) = (item.shapeTrait, item.self) :: others ∧
      ∀ other ∈ others, other.1 ≠ item.shapeTrait := by
  cases generated with
  | composite code => exact ⟨[], rfl, by simp⟩
  | scalar => exact ⟨[], rfl, by simp⟩
  | enum arms =>
    cases arms with
    | nil => exact ⟨[], rfl, by simp⟩
    | cons arm arms =>
      refine ⟨_, rfl, ?_⟩
      intro other mem
      simp only [List.isEmpty_cons, Bool.false_eq_true, if_false, conversion, implementation,
        List.filterMap_cons, Piece.implementation?, List.filterMap_nil, List.mem_cons,
        List.not_mem_nil, or_false] at mem
      rcases mem with rfl | rfl
      · exact conversionTrait_ne _
      · exact conversionTrait_ne _

theorem described_of_ok (derived : item.derive = .ok generated) : item.Described item.output := by
  obtain ⟨out, -⟩ := output_of_ok derived
  have derivable := exists_derive_iff.1 ⟨generated, derived⟩
  have recognised : ∀ variants, item.body = .enum variants → ∀ variant ∈ variants,
      variant.IsRecognised := by
    intro variants enum variant mem
    have body := derivable.body
    rw [enum] at body
    exact (body variant mem).2
  constructor
  · exact out ▸ error?_pieces
  · exact out ▸ implementations_pieces
  · intro variants enum nonempty
    obtain ⟨-, -, body⟩ := derive_eq_ok_iff.1 derived
    rw [enum] at body
    obtain rfl := Option.some.inj body
    have arms : (variants.map Arm.ofVariant).map item.armCode = variants.map item.armOf := by
      rw [List.map_map]
      exact List.map_congr_left fun variant mem => armCode_ofVariant (recognised _ enum variant mem)
    have some : (variants.map Arm.ofVariant).isEmpty = false := by
      simpa using nonempty
    rw [out, pieces, some, arms]
    rfl
  · intro variants enum variant mem
    exact ⟨literal?_literal _, fun value => Variant.named_rename_iff (recognised _ enum variant mem)⟩

end Item

/-- **All or nothing.** What is written for a declaration is a description of the item it reads as,
    without errors, if that is derivable; and if the declaration reads as no derivable item it is errors,
    of which there are some, and nothing else. -/
theorem output_all_or_nothing {d : Declaration} {out : List Piece} (written : d.output = some out) :
    (∃ item, d.read.Gives item ∧ item.Derivable ∧ item.Described out ∧
      d.deriveText = some (.ok (render (out.flatMap Piece.tokens)))) ∨
    (¬ ∃ item, d.read.Gives item ∧ item.Derivable) ∧
      ∃ errors, errors ≠ [] ∧ out = errors.map .compileError ∧
        d.deriveText = some (.error errors) := by
  obtain ⟨outcome, read, same⟩ := Option.map_eq_some_iff.1 written
  cases outcome with
  | error e =>
    right
    refine ⟨?_, [e], List.cons_ne_nil e [], same.symm, ?_⟩
    · rintro ⟨item, gives, -⟩
      exact absurd (read.symm.trans gives) (by simp)
    · rw [Declaration.deriveText, read]
      rfl
  | ok item =>
    have text : d.deriveText = some item.deriveText := by
      rw [Declaration.deriveText, read]
      rfl
    obtain rfl : item.output = out := same
    cases derived : item.derive with
    | ok generated =>
      left
      have derivable := Item.exists_derive_iff.1 ⟨generated, derived⟩
      refine ⟨item, read, derivable, Item.described_of_ok derived, ?_⟩
      rw [text, (Item.output_of_ok derived).2]
    | error errors =>
      right
      obtain ⟨out, failed⟩ := Item.output_of_error derived
      have nonempty : errors ≠ [] := by
        rintro rfl
        exact Item.derive_ne_error_nil derived
      refine ⟨?_, errors, nonempty, out, by rw [text, failed]⟩
      rintro ⟨other, gives, derivable⟩
      obtain rfl := Reading.Gives.unique read gives
      obtain ⟨generated, ok⟩ := Item.exists_derive_iff.2 derivable
      exact absurd (derived.symm.trans ok) (by simp)

/-! ## An enum with a renamed variant -/

/-- An enum of two variants, one of which has a literal of its own. -/
def genre : Declaration :=
  { visibility := "pub"
    ident := "Genre"
    generics := []
    predicates := []
    attributes := []
    body := .enum [⟨"Drama", .unit, [], []⟩,
      ⟨"SciFi", .unit, [], [[⟨"rename", some (.text "SCI_FI")⟩]]⟩] }

namespace genre

def variants : List Variant :=
  [⟨"Drama", .unit, [], []⟩, ⟨"SciFi", .unit, [], [[.named "rename" (.text "SCI_FI")]]⟩]

def item : Item := ⟨"Genre", [.atom "pub"], [], [], [], .enum variants⟩

set_option maxRecDepth 20000 in
theorem read_genre : genre.read.Gives item := by rfl

theorem output_accepted :
    genre.output = some item.output ∧ item.Derivable ∧
      variants.map Variant.literal = ["Drama", "SCI_FI"] ∧
      item.output = [item.leaf, item.conversion (variants.map item.armOf) item.self,
        item.conversion (variants.map item.armOf) (atom "&" :: item.self)] := by
  have written : genre.output = some item.output := by
    rw [Declaration.output, read_genre]
    rfl
  rcases output_all_or_nothing written with
    ⟨other, gives, derivable, described, -⟩ | ⟨-, errors, -, only, -⟩
  · obtain rfl := read_genre.unique gives
    exact ⟨written, derivable, rfl, described.converted variants rfl (by simp [variants])⟩
  · have first : item.output.head? = some item.leaf := by rfl
    rw [only] at first
    cases errors with
    | nil => simp at first
    | cons e rest => simp [Item.leaf, Item.implementation] at first

end genre

end TypedQuery.Derive
