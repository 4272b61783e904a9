import Mathlib.Data.List.Nodup
import TypedQuery.Derive.Attribute
import TypedQuery.Proofs.Outcomes

/-!
# `Recognised` — which attributes an item may have, and what they say

Options are read entry by entry, and whatever is wrong is put down while the reading goes on. So a list
of entries is without errors exactly if each of them fits by itself and no name comes twice
(`errors_gather_eq_nil_iff`): the names that were seen are all the reader remembers. Where there are no
errors an option is what the one entry of its name says, and if there is none it is what it was at the
start (`get_gather`), wherever the entry stands and in which of several lists.

Both are inductions over the entries by one inversion, `exists_of_clean`: a reading without errors has
taken its first entry and goes on without errors.
-/

set_option autoImplicit false

namespace TypedQuery.Derive

open Outcome

/-! ## Entries and values -/

def MetaItem.name? : MetaItem → Option String
  | named name _ => some name
  | invalid _ => none

/-- The value of the first entry of a name. -/
def valueOf? (name : String) : List MetaItem → Option MetaValue
  | [] => none
  | .named other value :: rest => if other = name then some value else valueOf? name rest
  | .invalid _ :: rest => valueOf? name rest

/-- Every entry has a name and fits it, and no name comes twice. -/
structure Recognised (fits : String → MetaValue → Bool) (entries : List MetaItem) : Prop where
  fitting : ∀ entry ∈ entries, ∃ name value, entry = .named name value ∧ fits name value = true
  once : (entries.filterMap MetaItem.name?).Nodup

namespace MetaValue

/-- A bare word, or a truth value, in quotes or not. -/
def isFlag : MetaValue → Bool
  | word | bool _ => true
  | text s => s == "true" || s == "false"
  | list | other _ => false

/-- The flag is set. -/
def isSet : MetaValue → Bool
  | word => true
  | bool b => b
  | text s => s == "true"
  | list | other _ => false

def text? : MetaValue → Option String
  | text s => some s
  | _ => none

/-- The path in quotes. -/
def path? (value : MetaValue) : Option (List Token) :=
  value.text?.bind (Grammar.readText? Grammar.path)

variable {value : MetaValue}

theorem flag_eq_ok_iff {b : Bool} :
    value.flag = .ok b ↔ value.isFlag = true ∧ value.isSet = b := by
  unfold flag
  split
  · simp [isFlag, isSet]
  · simp [isFlag, isSet]
  · simp [isFlag, isSet]
  · simp [isFlag, isSet]
  · rename_i s noTrue noFalse
    simp only [isFlag, Bool.or_eq_true, beq_iff_eq, reduceCtorEq, false_iff, not_and]
    rintro (rfl | rfl)
    · exact absurd rfl noTrue
    · exact absurd rfl noFalse
  · simp [isFlag]
  · simp [isFlag]

theorem text?_eq_some_iff {s : String} : value.text? = some s ↔ value = .text s := by
  cases value <;> simp [text?]

theorem string_eq_ok_iff {s : String} : value.string = .ok s ↔ value.text? = some s := by
  cases value <;> simp [string, text?]

theorem path_eq_ok_iff {tokens : List Token} : value.path = .ok tokens ↔ value.path? = some tokens := by
  cases value with
  | text s =>
    show MetaValue.path (.text s) = _ ↔ Grammar.readText? Grammar.path s = some tokens
    unfold path
    cases h : Grammar.readText? Grammar.path s <;> simp [h]
  | _ => simp [path, path?, text?]

theorem exists_flag_iff : (∃ b, value.flag = .ok b) ↔ value.isFlag = true := by
  simp [flag_eq_ok_iff]

theorem exists_string_iff : (∃ s, value.string = .ok s) ↔ value.text?.isSome = true := by
  simp [string_eq_ok_iff, Option.isSome_iff_exists]

theorem exists_path_iff : (∃ tokens, value.path = .ok tokens) ↔ value.path?.isSome = true := by
  simp [path_eq_ok_iff, Option.isSome_iff_exists]

end MetaValue

/-- The flag of a name is set. -/
def flagOf (name : String) (entries : List MetaItem) : Bool :=
  (valueOf? name entries).any MetaValue.isSet

def textOf? (name : String) (entries : List MetaItem) : Option String :=
  (valueOf? name entries).bind MetaValue.text?

section Recognised

variable {fits : String → MetaValue → Bool} {entries : List MetaItem} {name : String}
  {value : MetaValue}

theorem mem_of_valueOf? (found : valueOf? name entries = some value) :
    MetaItem.named name value ∈ entries := by
  induction entries with
  | nil => simp [valueOf?] at found
  | cons entry rest ih =>
    cases entry with
    | invalid e => exact List.mem_cons_of_mem _ (ih found)
    | named other value' =>
      rw [valueOf?] at found
      split at found
      · rename_i same
        simp [same, Option.some.inj found]
      · exact List.mem_cons_of_mem _ (ih found)

/-- Among recognised entries the first of a name is the only one. -/
theorem Recognised.mem_iff (recognised : Recognised fits entries) :
    MetaItem.named name value ∈ entries ↔ valueOf? name entries = some value := by
  refine ⟨fun mem => ?_, mem_of_valueOf?⟩
  have once := recognised.once
  clear recognised
  induction entries with
  | nil => exact absurd mem List.not_mem_nil
  | cons entry rest ih =>
    rcases List.mem_cons.1 mem with rfl | further
    · rw [valueOf?, if_pos rfl]
    · cases entry with
      | invalid e => exact ih further once
      | named other value' =>
        obtain ⟨later, once⟩ := List.nodup_cons.1 once
        have apart : other ≠ name := by
          intro same
          exact later (List.mem_filterMap.2 ⟨_, further, congrArg some same.symm⟩)
        rw [valueOf?, if_neg apart]
        exact ih further once

/-- An entry that has to be a text is one. -/
theorem Recognised.mem_text_iff (recognised : Recognised fits entries)
    (texts : ∀ value, fits name value = true → value.text?.isSome = true) :
    MetaItem.named name value ∈ entries ↔
      ∃ s, value = .text s ∧ textOf? name entries = some s := by
  rw [recognised.mem_iff]
  constructor
  · intro found
    obtain ⟨name', value', same, fit⟩ := recognised.fitting _ (mem_of_valueOf? found)
    obtain ⟨rfl, rfl⟩ := MetaItem.named.inj same
    obtain ⟨s, text⟩ := Option.isSome_iff_exists.1 (texts value fit)
    exact ⟨s, MetaValue.text?_eq_some_iff.1 text, by rw [textOf?, found, Option.bind_some, text]⟩
  · rintro ⟨s, rfl, found⟩
    obtain ⟨value', found, text⟩ := Option.bind_eq_some_iff.1 found
    rw [found, MetaValue.text?_eq_some_iff.1 text]

end Recognised

/-! ## Reading entries -/

section Gather

variable {α β : Type} {known seen : List String} {options : α} {entries rest : List MetaItem}
  {set : α → String → MetaValue → Except DeriveError α} {entry : MetaItem} {name : String}

/-- An entry that is known, new and fits is taken. -/
theorem gather_named {value : MetaValue} {options' : α} (known' : known.contains name = true)
    (fresh : seen.contains name = false) (taken : set options name value = .ok options') :
    gather known set seen options (.named name value :: rest) =
      gather known set (name :: seen) options' rest := by
  rw [gather, known', fresh, taken]
  rfl

/-- Where a reading has no errors it has taken the first entry, and has none further on. -/
theorem exists_of_clean (clean : (gather known set seen options (entry :: rest)).errors = []) :
    ∃ name value options', entry = .named name value ∧ known.contains name = true ∧
      seen.contains name = false ∧ set options name value = .ok options' ∧
      gather known set seen options (entry :: rest) =
        gather known set (name :: seen) options' rest := by
  cases entry with
  | invalid e => simp [gather, Gathered.after] at clean
  | named name value =>
    cases known' : known.contains name with
    | false =>
      rw [gather, known'] at clean
      simp [Gathered.after] at clean
    | true =>
      cases fresh : seen.contains name with
      | true =>
        rw [gather, known', fresh] at clean
        simp [Gathered.after] at clean
      | false =>
        cases taken : set options name value with
        | ok options' =>
          exact ⟨name, value, options', rfl, known', fresh, taken, gather_named known' fresh taken⟩
        | error e =>
          rw [gather, known', fresh, taken] at clean
          simp [Gathered.after] at clean

theorem valueOf?_of_seen (clean : (gather known set seen options entries).errors = [])
    (mem : name ∈ seen) : valueOf? name entries = none := by
  induction entries generalizing seen options with
  | nil => rfl
  | cons entry rest ih =>
    obtain ⟨other, value, options', rfl, -, fresh, -, onward⟩ := exists_of_clean clean
    have apart : other ≠ name := by
      rintro rfl
      simp [mem] at fresh
    rw [valueOf?, if_neg apart]
    exact ih (onward ▸ clean) (List.mem_cons_of_mem _ mem)

/-- **A reading has no errors exactly if its entries are recognised**, and none has a name that was
    seen before. -/
theorem errors_gather_eq_nil_iff (fits : String → MetaValue → Bool)
    (takes : ∀ options name value, fits name value = true ↔
      known.contains name = true ∧ ∃ options', set options name value = .ok options') :
    (gather known set seen options entries).errors = [] ↔
      Recognised fits entries ∧ ∀ name ∈ entries.filterMap MetaItem.name?, name ∉ seen := by
  induction entries generalizing seen options with
  | nil => exact ⟨fun _ => ⟨⟨by simp, List.nodup_nil⟩, by simp⟩, fun _ => rfl⟩
  | cons entry rest ih =>
    constructor
    · intro clean
      obtain ⟨name, value, options', rfl, known', fresh, taken, onward⟩ := exists_of_clean clean
      obtain ⟨recognised, unseen⟩ := ih.1 (onward ▸ clean)
      have fit : fits name value = true := (takes options name value).2 ⟨known', options', taken⟩
      have later : name ∉ rest.filterMap MetaItem.name? :=
        fun mem => unseen name mem List.mem_cons_self
      refine ⟨⟨List.forall_mem_cons.2 ⟨⟨name, value, rfl, fit⟩, recognised.fitting⟩,
        List.nodup_cons.2 ⟨later, recognised.once⟩⟩, List.forall_mem_cons.2 ⟨?_, ?_⟩⟩
      · simpa using fresh
      · exact fun other mem old => unseen other mem (List.mem_cons_of_mem _ old)
    · rintro ⟨⟨fitting, once⟩, unseen⟩
      obtain ⟨⟨name, value, rfl, fit⟩, others⟩ := List.forall_mem_cons.1 fitting
      obtain ⟨later, once⟩ := List.nodup_cons.1 once
      obtain ⟨fresh, unseen⟩ := List.forall_mem_cons.1 unseen
      obtain ⟨known', options', taken⟩ := (takes options name value).1 fit
      rw [gather_named known' (by simpa using fresh) taken]
      refine ih.2 ⟨⟨others, once⟩, fun other mem old => ?_⟩
      rcases List.mem_cons.1 old with rfl | old
      · exact later mem
      · exact unseen other mem old

/-- **An option is what the entry of its name says**, or what it was at the start. -/
theorem get_gather (name : String) (get : α → β) (read : MetaValue → β)
    (here : ∀ options value options', set options name value = .ok options' → get options' = read value)
    (elsewhere : ∀ options other value options', known.contains other = true → other ≠ name →
      set options other value = .ok options' → get options' = get options)
    (clean : (gather known set seen options entries).errors = []) :
    get (gather known set seen options entries).options =
      ((valueOf? name entries).map read).getD (get options) := by
  induction entries generalizing seen options with
  | nil => rfl
  | cons entry rest ih =>
    obtain ⟨other, value, options', rfl, known', -, taken, onward⟩ := exists_of_clean clean
    rw [onward] at clean ⊢
    by_cases same : other = name
    · subst same
      -- the name has been seen, so nothing further on sets the option again
      rw [ih clean, valueOf?_of_seen clean List.mem_cons_self, valueOf?, if_pos rfl]
      exact here options value options' taken
    · rw [ih clean, valueOf?, if_neg same, elsewhere options other value options' known' same taken]

theorem flag_gather (name : String) (get : α → Bool)
    (here : ∀ options value options', set options name value = .ok options' →
      value.flag = .ok (get options'))
    (elsewhere : ∀ options other value options', known.contains other = true → other ≠ name →
      set options other value = .ok options' → get options' = get options)
    (start : get options = false) (clean : (gather known set seen options entries).errors = []) :
    get (gather known set seen options entries).options = flagOf name entries := by
  have read : ∀ options value options', set options name value = .ok options' →
      get options' = value.isSet :=
    fun _ _ _ taken => (MetaValue.flag_eq_ok_iff.1 (here _ _ _ taken)).2.symm
  rw [get_gather name get MetaValue.isSet read elsewhere clean, start, flagOf]
  cases valueOf? name entries <;> simp

theorem text_gather (name : String) (get : α → Option String)
    (here : ∀ options value options', set options name value = .ok options' →
      ∃ s, value.string = .ok s ∧ get options' = some s)
    (elsewhere : ∀ options other value options', known.contains other = true → other ≠ name →
      set options other value = .ok options' → get options' = get options)
    (start : get options = none) (clean : (gather known set seen options entries).errors = []) :
    get (gather known set seen options entries).options = textOf? name entries := by
  have read : ∀ options value options', set options name value = .ok options' →
      get options' = value.text? := by
    intro options value options' taken
    obtain ⟨s, text, got⟩ := here options value options' taken
    rw [got, MetaValue.string_eq_ok_iff.1 text]
  rw [get_gather name get MetaValue.text? read elsewhere clean, start, textOf?]
  cases valueOf? name entries <;> simp

end Gather

/-! ## Items, fields and variants -/

namespace Item

def entryFits (name : String) (value : MetaValue) : Bool :=
  name == "scalar" && value.isFlag || name == "crate" && value.path?.isSome

def IsRecognised (item : Item) : Prop := Recognised entryFits item.attributes.flatten

/-- The item is marked as a leaf. -/
def isScalar (item : Item) : Bool := flagOf "scalar" item.attributes.flatten

variable {item : Item}

theorem errors_options_eq_nil_iff :
    item.options.errors = [] ↔ item.IsRecognised := by
  unfold options IsRecognised
  rw [errors_gather_eq_nil_iff entryFits]
  · simp
  · intro options name value
    unfold entryFits
    by_cases scalar : name = "scalar"
    · simp [scalar, -Bool.exists_bool, exists_map_eq_ok_iff, MetaValue.exists_flag_iff]
    · simp [scalar, exists_map_eq_ok_iff, MetaValue.exists_path_iff]

theorem scalar_options (clean : item.options.errors = []) :
    item.options.options.scalar = item.isScalar := by
  refine flag_gather "scalar" ItemOptions.scalar ?_ ?_ rfl clean
  · intro options value options' taken
    obtain ⟨b, flag, rfl⟩ := map_eq_ok_iff.1 taken
    exact flag
  · intro options other value options' _ apart taken
    simp only [beq_false_of_ne apart, Bool.false_eq_true, if_false] at taken
    obtain ⟨tokens, -, rfl⟩ := map_eq_ok_iff.1 taken
    rfl

end Item

namespace Field

def entryFits (name : String) (value : MetaValue) : Bool :=
  name == "rename" && value.text?.isSome || name == "skip" && value.isFlag

def IsRecognised (field : Field) : Prop := Recognised entryFits field.attributes.flatten

/-- The name of its own that the attributes of the field give it. -/
def rename? (field : Field) : Option String := textOf? "rename" field.attributes.flatten

/-- The field is marked to be left out. -/
def isSkipped (field : Field) : Bool := flagOf "skip" field.attributes.flatten

variable {field : Field}

theorem errors_options_eq_nil_iff :
    field.options.errors = [] ↔ field.IsRecognised := by
  unfold options IsRecognised
  rw [errors_gather_eq_nil_iff entryFits]
  · simp
  · intro options name value
    unfold entryFits
    by_cases rename : name = "rename"
    · simp [rename, exists_map_eq_ok_iff, MetaValue.exists_string_iff]
    · simp [rename, -Bool.exists_bool, exists_map_eq_ok_iff, MetaValue.exists_flag_iff]

theorem rename_options (clean : field.options.errors = []) :
    field.options.options.rename = field.rename? := by
  refine text_gather "rename" FieldOptions.rename ?_ ?_ rfl clean
  · intro options value options' taken
    obtain ⟨s, text, rfl⟩ := map_eq_ok_iff.1 taken
    exact ⟨s, text, rfl⟩
  · intro options other value options' _ apart taken
    simp only [beq_false_of_ne apart, Bool.false_eq_true, if_false] at taken
    obtain ⟨b, -, rfl⟩ := map_eq_ok_iff.1 taken
    rfl

theorem skip_options (clean : field.options.errors = []) :
    field.options.options.skip = field.isSkipped := by
  refine flag_gather "skip" FieldOptions.skip ?_ ?_ rfl clean
  · intro options value options' taken
    obtain ⟨b, flag, rfl⟩ := map_eq_ok_iff.1 taken
    exact flag
  · intro options other value options' known apart taken
    obtain rfl : other = "rename" := by simpa [apart] using known
    obtain ⟨s, -, rfl⟩ := map_eq_ok_iff.1 taken
    rfl

theorem named_rename_iff (recognised : field.IsRecognised) {value : MetaValue} :
    .named "rename" value ∈ field.attributes.flatten ↔
      ∃ s, value = .text s ∧ field.rename? = some s := by
  refine Recognised.mem_text_iff recognised ?_
  intro value fit
  simpa [entryFits] using fit

theorem isSkipped_iff (recognised : field.IsRecognised) :
    field.isSkipped = true ↔
      ∃ value, .named "skip" value ∈ field.attributes.flatten ∧ value.isSet = true := by
  simp only [isSkipped, flagOf, Option.any_eq_true, Recognised.mem_iff recognised]

end Field

namespace Variant

def entryFits (name : String) (value : MetaValue) : Bool :=
  name == "rename" && value.text?.isSome

def IsRecognised (variant : Variant) : Prop := Recognised entryFits variant.attributes.flatten

/-- The literal of its own that the attributes of the variant give it. -/
def rename? (variant : Variant) : Option String := textOf? "rename" variant.attributes.flatten

variable {variant : Variant}

theorem errors_options_eq_nil_iff :
    variant.options.errors = [] ↔ variant.IsRecognised := by
  unfold options IsRecognised
  rw [errors_gather_eq_nil_iff entryFits]
  · simp
  · intro options name value
    simp [entryFits, exists_map_eq_ok_iff, MetaValue.exists_string_iff]

theorem rename_options (clean : variant.options.errors = []) :
    variant.options.options.rename = variant.rename? := by
  refine text_gather "rename" VariantOptions.rename ?_ ?_ rfl clean
  · intro options value options' taken
    obtain ⟨s, text, rfl⟩ := map_eq_ok_iff.1 taken
    exact ⟨s, text, rfl⟩
  · intro options other value options' known apart taken
    exact absurd (by simpa using known) apart

theorem named_rename_iff (recognised : variant.IsRecognised) {value : MetaValue} :
    .named "rename" value ∈ variant.attributes.flatten ↔
      ∃ s, value = .text s ∧ variant.rename? = some s := by
  refine Recognised.mem_text_iff recognised ?_
  intro value fit
  simpa [entryFits] using fit

end Variant

end TypedQuery.Derive
