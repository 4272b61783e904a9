import Mathlib.Data.Finset.Image
import TypedQuery.Proofs.Query.Expansion
import TypedQuery.Proofs.Shape.Unwrapping

/-!
# `expandWithin` — expanding within bounds

Two things repeat while a type is expanded: wrappers are taken off it one after the other, and
composites are put on a stack while their members are expanded. Here both are bounded. A run may
take off `steps` wrappers of a type and put `capacity` composites on the stack, and a run that needs
more is unfinished. An endless chain of wrappers, which expanding names as an error, is what no
bounds are enough for.

A bounded run never says anything else than expanding does (`rootWithin_below`), and **bounds that
the family sets are enough for everything expanding says** (`rootWithin_eq`): room on the stack for
as many composites as there are keys of composites in the family, and as many wrappers as it has
types.
-/

set_option autoImplicit false

namespace TypedQuery

open Outcome

/-! ## Runs that may be unfinished -/

/-- Why a bounded run gives no selection. -/
inductive Halt where
  /-- The bounds were used up. -/
  | unfinished
  | failed (error : QueryError)

namespace Halt

/-- What an error is to a run: wrappers without end show in not finishing. -/
def ofError : QueryError → Halt
  | .endlessWrapper _ => .unfinished
  | error => .failed error

theorem ofError_eq_unfinished_iff {error : QueryError} :
    ofError error = .unfinished ↔ ∃ type, error = .endlessWrapper type := by
  cases error <;> simp [ofError]

theorem ofError_eq_failed_iff {error error' : QueryError} :
    ofError error = .failed error' ↔ error = error' ∧ ∀ type, error' ≠ .endlessWrapper type := by
  cases error <;> cases error' <;> simp [ofError]

variable {α β : Type}

/-- A run is unfinished, or it is the whole of another. -/
def Below (run whole : Except Halt α) : Prop := run = .error .unfinished ∨ run = whole

theorem Below.refl (run : Except Halt α) : Below run run := Or.inr rfl

/-- A run that some bounds are enough for finishes within some bounds, unless what it is below
    fails for wrappers without end. -/
theorem finishes_iff {run : Nat → Nat → Except Halt α} {whole : Except QueryError α}
    (below : ∀ capacity steps, Below (run capacity steps) (whole.mapError ofError))
    {capacity steps : Nat} (enough : run capacity steps = whole.mapError ofError) :
    (∃ capacity steps, run capacity steps ≠ .error .unfinished) ↔
      ∀ type, whole ≠ .error (.endlessWrapper type) := by
  constructor
  · rintro ⟨capacity, steps, finished⟩ type endless
    rcases below capacity steps with unfinished | same
    · exact finished unfinished
    · rw [endless] at same
      exact finished same
  · intro ends
    refine ⟨capacity, steps, fun unfinished => ?_⟩
    obtain ⟨error, failed, isEndless⟩ := mapError_eq_error_iff.1 (enough.symm.trans unfinished)
    obtain ⟨type, rfl⟩ := ofError_eq_unfinished_iff.1 isEndless
    exact ends type failed

theorem Below.map {run whole : Except Halt α} (below : Below run whole) (f : α → β) :
    Below (run.map f) (whole.map f) := by
  rcases below with rfl | rfl
  · exact Or.inl rfl
  · exact Or.inr rfl

theorem Below.mapM {run whole : α → Except Halt β} (below : ∀ x, Below (run x) (whole x))
    (xs : List α) : Below (xs.mapM run) (xs.mapM whole) := by
  induction xs with
  | nil => exact Below.refl _
  | cons x rest ih =>
    rw [List.mapM_cons, List.mapM_cons]
    rcases below x with unfinished | same
    · rw [unfinished]
      exact Or.inl rfl
    rw [same]
    cases whole x with
    | error halt => exact Or.inr rfl
    | ok y =>
      rcases ih with unfinished | same
      · rw [unfinished]
        exact Or.inl rfl
      · rw [same]
        exact Or.inr rfl

end Halt

/-! ## The keys of composites -/

namespace Schema

variable {S : Schema} {registry : Registry}

/-- The type has members, be it none. -/
def isComposite (S : Schema) (i : S.Ref) : Bool :=
  match (S.descriptor i).form with
  | .composite _ => true
  | _ => false

/-- The keys of the composites of a family. -/
def compositeKeys (S : Schema) : Finset Nat :=
  (Finset.univ.filter fun i => S.isComposite i).image fun i => (S.key i).id

/-- The keys of composites that are not on a stack. -/
def unopened (S : Schema) (stack : List TypeKey) : Finset Nat :=
  S.compositeKeys.filter fun id => id ∉ stack.map (·.id)

theorem unopened_nil (S : Schema) : S.unopened [] = S.compositeKeys := by
  unfold unopened
  simp

/-- Putting a composite on a stack that does not hold it leaves fewer to be put there. -/
theorem card_unopened_cons_lt {stack : List TypeKey} {i : S.Ref}
    (composite : S.isComposite i = true) (closed : stack.any (· == S.key i) = false) :
    (S.unopened (S.key i :: stack)).card < (S.unopened stack).card := by
  have absent : (S.key i).id ∉ stack.map (·.id) := by
    intro listed
    obtain ⟨key, mem, same⟩ := List.mem_map.1 listed
    have found : stack.any (· == S.key i) = true :=
      List.any_eq_true.2 ⟨key, mem, TypeKey.beq_iff.2 same⟩
    exact absurd (found.symm.trans closed) (by simp)
  have listed : (S.key i).id ∈ S.compositeKeys :=
    Finset.mem_image.2 ⟨i, Finset.mem_filter.2 ⟨Finset.mem_univ i, composite⟩, rfl⟩
  refine Finset.card_lt_card (Finset.ssubset_iff_subset_ne.2 ⟨?_, ?_⟩)
  · intro id mem
    obtain ⟨key, apart⟩ := Finset.mem_filter.1 mem
    exact Finset.mem_filter.2 ⟨key, fun below => apart (List.mem_cons_of_mem _ below)⟩
  · intro same
    have before : (S.key i).id ∈ S.unopened stack := Finset.mem_filter.2 ⟨listed, absent⟩
    rw [← same] at before
    exact absurd List.mem_cons_self (Finset.mem_filter.1 before).2

theorem isComposite_of_classifyWithin {fuel : Nat} {i j : S.Ref}
    (classified : S.classifyWithin registry fuel i = some (.composite j)) :
    S.isComposite j = true := by
  induction fuel generalizing i with
  | zero => exact absurd classified (by simp [classifyWithin])
  | succ fuel ih =>
    unfold classifyWithin at classified
    split at classified
    · exact absurd classified (by simp)
    cases form : (S.descriptor i).form with
    | scalar => simp [form] at classified
    | collection k => exact ih (by simpa [form] using classified)
    | optional k => exact ih (by simpa [form] using classified)
    | composite members =>
      obtain rfl : i = j := by simpa [form] using classified
      simp [isComposite, form]

end Schema

/-! ## Expanding within bounds -/

variable {S : Schema}

namespace Expansion

/-- The selection of a type whose wrappers are off within `steps`. -/
def selectWithin (e : Expansion S) (steps : Nat) (expand : S.Ref → Except Halt SelectionSet)
    (i : S.Ref) : Except Halt (Option SelectionSet) :=
  match S.classifyWithin e.registry steps i with
  | none => .error .unfinished
  | some (.scalar _) => .ok none
  | some (.composite j) => (expand j).map some

/-- The fields of a composite, with `capacity` more composites to be put on the stack. -/
def expandWithin (e : Expansion S) (steps capacity : Nat) (stack : List TypeKey)
    (path : List String) (i : S.Ref) : Except Halt SelectionSet :=
  if stack.any (· == S.key i) then .error (.failed (.cyclicShape (S.key i) path))
  else match capacity with
    | 0 => .error .unfinished
    | capacity + 1 =>
      ((S.descriptor i).members.mapM fun m =>
        (e.selectWithin steps (e.expandWithin steps capacity (S.key i :: stack) (path ++ [m.name]))
          m.type).map (SelectionField.make (e.fieldHead m))).map SelectionSet.mk

/-- The selection of a root type. -/
def rootWithin (e : Expansion S) (capacity steps : Nat) (i : S.Ref) : Except Halt SelectionSet :=
  (e.selectWithin steps (e.expandWithin steps capacity [] []) i).map fun set => set.getD ⟨[]⟩

variable (e : Expansion S) {stack : List TypeKey} {path : List String} {i : S.Ref}
  {capacity steps : Nat}

theorem expandWithin_of_visited (open' : stack.any (· == S.key i) = true) :
    e.expandWithin steps capacity stack path i = (e.expand stack path i).mapError Halt.ofError := by
  rw [e.expand_eq_of_visited stack path i open']
  unfold expandWithin
  rw [if_pos open']
  rfl

theorem expandWithin_of_full (closed : stack.any (· == S.key i) = false) :
    e.expandWithin steps 0 stack path i = .error .unfinished := by
  unfold expandWithin
  rw [if_neg (by simp [closed])]

theorem expandWithin_of_fresh (closed : stack.any (· == S.key i) = false) :
    e.expandWithin steps (capacity + 1) stack path i =
      ((S.descriptor i).members.mapM fun m =>
        (e.selectWithin steps (e.expandWithin steps capacity (S.key i :: stack) (path ++ [m.name]))
          m.type).map (SelectionField.make (e.fieldHead m))).map SelectionSet.mk := by
  rw [expandWithin, if_neg (by simp [closed])]

theorem mapError_field (m : Member S.size) :
    (e.field stack path m).mapError Halt.ofError =
      ((e.select stack (path ++ [m.name]) m.type).mapError Halt.ofError).map
        (SelectionField.make (e.fieldHead m)) := by
  unfold field
  exact mapError_map ..

theorem mapError_expand (closed : stack.any (· == S.key i) = false) :
    (e.expand stack path i).mapError Halt.ofError =
      ((S.descriptor i).members.mapM fun m =>
        ((e.select (S.key i :: stack) (path ++ [m.name]) m.type).mapError Halt.ofError).map
          (SelectionField.make (e.fieldHead m))).map SelectionSet.mk := by
  rw [e.expand_eq_mapM closed, mapError_map, mapError_mapM]
  simp only [e.mapError_field]

/-- A selection that is not finished is unfinished in what it expands, or in taking off wrappers. -/
theorem selectWithin_below {expand : S.Ref → Except Halt SelectionSet}
    (below : ∀ j, Halt.Below (expand j) ((e.expand stack path j).mapError Halt.ofError))
    (steps : Nat) (i : S.Ref) :
    Halt.Below (e.selectWithin steps expand i) ((e.select stack path i).mapError Halt.ofError) := by
  unfold selectWithin
  cases within : S.classifyWithin e.registry steps i with
  | none => exact Or.inl rfl
  | some c =>
    have classified := Schema.classify_of_classifyWithin within
    cases c with
    | scalar key =>
      rw [e.select_of_scalar classified]
      exact Halt.Below.refl _
    | composite j =>
      rw [e.select_of_composite classified, mapError_map]
      exact (below j).map some

/-- **What a bounded run says is what expanding says.** -/
theorem expandWithin_below (steps capacity : Nat) (stack : List TypeKey) (path : List String)
    (i : S.Ref) :
    Halt.Below (e.expandWithin steps capacity stack path i)
      ((e.expand stack path i).mapError Halt.ofError) := by
  induction capacity generalizing stack path i with
  | zero =>
    cases h : stack.any (· == S.key i) with
    | true => exact Or.inr (e.expandWithin_of_visited h)
    | false => exact Or.inl (e.expandWithin_of_full h)
  | succ capacity ih =>
    cases h : stack.any (· == S.key i) with
    | true => exact Or.inr (e.expandWithin_of_visited h)
    | false =>
      rw [e.expandWithin_of_fresh h, e.mapError_expand h]
      apply Halt.Below.map
      apply Halt.Below.mapM
      intro m
      exact (e.selectWithin_below (fun j => ih _ _ j) steps m.type).map _

/-- A selection whose wrappers may all be taken off is that of its composite. -/
theorem selectWithin_eq (enough : S.size ≤ steps) {expand : S.Ref → Except Halt SelectionSet}
    (whole : ∀ j, S.isComposite j = true →
      expand j = (e.expand stack path j).mapError Halt.ofError) (i : S.Ref) :
    e.selectWithin steps expand i = (e.select stack path i).mapError Halt.ofError := by
  unfold selectWithin
  rw [Schema.classifyWithin_eq_classify enough]
  cases classified : S.classify e.registry i with
  | none =>
    unfold select
    rw [classified]
    rfl
  | some c =>
    cases c with
    | scalar key =>
      rw [e.select_of_scalar classified]
      rfl
    | composite j =>
      rw [e.select_of_composite classified, mapError_map,
        ← whole j (Schema.isComposite_of_classifyWithin classified)]

/-- **A stack with room for every composite is never full.** -/
theorem expandWithin_eq (enough : S.size ≤ steps) (composite : S.isComposite i = true)
    (room : (S.unopened stack).card ≤ capacity) :
    e.expandWithin steps capacity stack path i =
      (e.expand stack path i).mapError Halt.ofError := by
  induction stack, i using S.stackInduction generalizing capacity path with
  | visited stack i open' => exact e.expandWithin_of_visited open'
  | fresh stack i closed ih =>
    have fewer := Schema.card_unopened_cons_lt composite closed
    obtain ⟨capacity, rfl⟩ : ∃ left, capacity = left + 1 := ⟨capacity - 1, by omega⟩
    rw [e.expandWithin_of_fresh closed, e.mapError_expand closed]
    have member : ∀ m : Member S.size,
        e.selectWithin steps (e.expandWithin steps capacity (S.key i :: stack) (path ++ [m.name]))
          m.type =
        (e.select (S.key i :: stack) (path ++ [m.name]) m.type).mapError Halt.ofError := by
      intro m
      apply e.selectWithin_eq enough
      intro j isComposite
      exact ih j isComposite (by omega)
    simp only [member]

theorem rootWithin_below (capacity steps : Nat) (i : S.Ref) :
    Halt.Below (e.rootWithin capacity steps i) ((e.root i).mapError Halt.ofError) := by
  unfold rootWithin root
  rw [mapError_map]
  exact (e.selectWithin_below (fun j => e.expandWithin_below steps capacity [] [] j) steps i).map _

theorem rootWithin_eq (i : S.Ref) :
    e.rootWithin S.compositeKeys.card S.size i = (e.root i).mapError Halt.ofError := by
  unfold rootWithin root
  rw [mapError_map, e.selectWithin_eq (Nat.le_refl S.size) fun j isComposite =>
    e.expandWithin_eq (Nat.le_refl S.size) isComposite (by rw [S.unopened_nil])]

/-- A root finishes within some bounds unless it meets wrappers that never end. -/
theorem rootWithin_finishes_iff :
    (∃ capacity steps, e.rootWithin capacity steps i ≠ .error .unfinished) ↔
      ∀ type, e.root i ≠ .error (.endlessWrapper type) :=
  Halt.finishes_iff (fun capacity steps => e.rootWithin_below capacity steps i) (e.rootWithin_eq i)

end Expansion

end TypedQuery
