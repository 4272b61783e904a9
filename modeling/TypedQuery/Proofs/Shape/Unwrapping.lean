import Mathlib.Dynamics.PeriodicPts.Defs
import Mathlib.Data.Fintype.Pigeonhole
import TypedQuery.Shape.Classification

/-!
# `WrappersEnd` — when every type has a classification

Classifying unwraps collections and optionals that are not registered, one after another. It has
no answer exactly where that goes on for ever, which a finite family makes possible only by a
wrapper that is met again inside itself. Where no chain of wrappers is endless, as many steps as
the family has types are enough, so that **every type has a classification**
(`classify_of_wrappersEnd`).
-/

set_option autoImplicit false

namespace TypedQuery.Schema

variable {S : Schema} {registry : Registry}

/-- One step of unwrapping: from a wrapper that is not registered to the type inside it. -/
def Wraps (S : Schema) (registry : Registry) (i j : S.Ref) : Prop :=
  registry.contains (S.key i) = false ∧
    ((S.descriptor i).form = .collection j ∨ (S.descriptor i).form = .optional j)

/-- No chain of unregistered wrappers goes on for ever. -/
def WrappersEnd (S : Schema) (registry : Registry) : Prop :=
  ∀ chain : Nat → S.Ref, ∃ n, ¬ S.Wraps registry (chain n) (chain (n + 1))

/-- What stands inside a wrapper; any other type itself. -/
def inner (S : Schema) (i : S.Ref) : S.Ref :=
  match (S.descriptor i).form with
  | .collection j => j
  | .optional j => j
  | _ => i

/-- A step that the fuel does not cover is a step of unwrapping. -/
theorem classifyWithin_eq_none {fuel : Nat} {i : S.Ref}
    (h : S.classifyWithin registry (fuel + 1) i = none) :
    S.Wraps registry i (S.inner i) ∧ S.classifyWithin registry fuel (S.inner i) = none := by
  unfold classifyWithin at h
  split at h
  · exact absurd h (by simp)
  · rename_i free
    unfold Wraps inner
    cases form : (S.descriptor i).form with
    | scalar => simp [form] at h
    | composite members => simp [form] at h
    | collection j => exact ⟨⟨by simpa using free, Or.inl rfl⟩, by simpa [form] using h⟩
    | optional j => exact ⟨⟨by simpa using free, Or.inr rfl⟩, by simpa [form] using h⟩

/-- Where the fuel is used up, that many wrappers stand one inside the other. -/
theorem wraps_of_classifyWithin_eq_none {fuel : Nat} {i : S.Ref}
    (h : S.classifyWithin registry fuel i = none) :
    ∀ n < fuel, S.Wraps registry (S.inner^[n] i) (S.inner^[n + 1] i) := by
  induction fuel generalizing i with
  | zero => exact fun n hn => absurd hn (Nat.not_lt_zero n)
  | succ fuel ih =>
    obtain ⟨step, rest⟩ := classifyWithin_eq_none h
    intro n hn
    cases n with
    | zero => exact step
    | succ n => exact ih rest n (Nat.lt_of_succ_lt_succ hn)

/-- A type that is met again while unwrapping is met for ever. -/
theorem wraps_of_repeats {i : S.Ref} {p : Nat} (pos : 0 < p) (again : S.inner^[p] i = i)
    (steps : ∀ n < p, S.Wraps registry (S.inner^[n] i) (S.inner^[n + 1] i)) (n : Nat) :
    S.Wraps registry (S.inner^[n] i) (S.inner^[n + 1] i) := by
  have periodic : Function.IsPeriodicPt S.inner p i := again
  have step := steps (n % p) (Nat.mod_lt n pos)
  rw [Function.iterate_succ_apply', periodic.iterate_mod_apply n] at step
  rw [Function.iterate_succ_apply']
  exact step

/-- **A type without a classification is wrapped for ever.** A chain as long as the family meets
    some type twice, and the part between the two meetings repeats. -/
theorem wraps_of_classify_eq_none {i : S.Ref} (unclassified : S.classify registry i = none)
    (n : Nat) : S.Wraps registry (S.inner^[n] i) (S.inner^[n + 1] i) := by
  have steps := wraps_of_classifyWithin_eq_none unclassified
  -- one more unwrapping than there are types
  obtain ⟨a, b, differ, meet⟩ := Fintype.exists_ne_map_eq_of_card_lt
    (fun n : Fin (S.size + 1) => S.inner^[n] i) (by simp)
  have repeats : ∀ a b : Nat, a < b → b ≤ S.size → S.inner^[a] i = S.inner^[b] i →
      S.Wraps registry (S.inner^[n] i) (S.inner^[n + 1] i) := by
    intro a b lt le same
    by_cases before : n < a
    · exact steps n (by omega)
    have again : S.inner^[b - a] (S.inner^[a] i) = S.inner^[a] i := by
      rw [← Function.iterate_add_apply, Nat.sub_add_cancel lt.le]
      exact same.symm
    have onward : ∀ k < b - a, S.Wraps registry (S.inner^[k] (S.inner^[a] i))
        (S.inner^[k + 1] (S.inner^[a] i)) := by
      intro k hk
      rw [← Function.iterate_add_apply, ← Function.iterate_add_apply,
        show k + 1 + a = k + a + 1 by omega]
      exact steps (k + a) (by omega)
    have round := wraps_of_repeats (by omega) again onward (n - a)
    rw [← Function.iterate_add_apply, ← Function.iterate_add_apply,
      show n - a + 1 + a = n + 1 by omega, show n - a + a = n by omega] at round
    exact round
  rcases Nat.lt_or_gt_of_ne (Fin.val_ne_of_ne differ) with lt | gt
  · exact repeats a b lt (Nat.le_of_lt_succ b.isLt) meet
  · exact repeats b a gt (Nat.le_of_lt_succ a.isLt) meet.symm

/-- **Where no chain of wrappers is endless, every type has a classification.** -/
theorem classify_of_wrappersEnd (ends : S.WrappersEnd registry) (i : S.Ref) :
    ∃ c, S.classify registry i = some c := by
  by_contra none
  have unclassified : S.classify registry i = .none :=
    Option.eq_none_iff_forall_ne_some.2 fun c hc => none ⟨c, hc⟩
  obtain ⟨n, stop⟩ := ends fun n => S.inner^[n] i
  exact stop (wraps_of_classify_eq_none unclassified n)

/-- A type that starts an endless chain uses up any fuel. -/
theorem classifyWithin_of_chain {chain : Nat → S.Ref}
    (endless : ∀ n, S.Wraps registry (chain n) (chain (n + 1))) (fuel n : Nat) :
    S.classifyWithin registry fuel (chain n) = none := by
  induction fuel generalizing n with
  | zero => rfl
  | succ fuel ih =>
    obtain ⟨free, form | form⟩ := endless n <;>
      simpa [classifyWithin, free, form] using ih (n + 1)

/-- **No chain of wrappers is endless exactly when every type has a classification.** -/
theorem wrappersEnd_iff : S.WrappersEnd registry ↔ ∀ i, (S.classify registry i).isSome = true := by
  constructor
  · intro ends i
    exact Option.isSome_iff_exists.2 (classify_of_wrappersEnd ends i)
  · intro all chain
    by_contra endless
    push Not at endless
    have classified := all (chain 0)
    rw [classify, classifyWithin_of_chain endless] at classified
    exact absurd classified (by simp)

instance : Decidable (S.WrappersEnd registry) := decidable_of_iff _ wrappersEnd_iff.symm

/-! ## As many steps as there are types -/

/-- Steps that are left over change nothing. -/
theorem classifyWithin_mono {fuel fuel' : Nat} {i : S.Ref} {c : Classification S.size}
    (le : fuel ≤ fuel') (classified : S.classifyWithin registry fuel i = some c) :
    S.classifyWithin registry fuel' i = some c := by
  induction fuel generalizing fuel' i with
  | zero => exact absurd classified (by simp [classifyWithin])
  | succ fuel ih =>
    obtain ⟨fuel', rfl⟩ := Nat.exists_eq_add_of_le' (Nat.le_trans (Nat.succ_pos fuel) le)
    unfold classifyWithin at classified ⊢
    split at classified
    · rename_i stops
      rw [if_pos stops]
      exact classified
    · rename_i free
      rw [if_neg free]
      cases form : (S.descriptor i).form with
      | scalar => simpa [form] using classified
      | composite members => simpa [form] using classified
      | collection j => exact ih (Nat.le_of_succ_le_succ le) (by simpa [form] using classified)
      | optional j => exact ih (Nat.le_of_succ_le_succ le) (by simpa [form] using classified)

/-- **What any number of steps finds is found in as many as the family has types.** -/
theorem classify_of_classifyWithin {fuel : Nat} {i : S.Ref} {c : Classification S.size}
    (classified : S.classifyWithin registry fuel i = some c) : S.classify registry i = some c := by
  cases found : S.classify registry i with
  | none =>
    -- a chain without end would have used up the steps
    have endless := classifyWithin_of_chain (wraps_of_classify_eq_none found) fuel 0
    exact absurd (classified.symm.trans endless) (by simp)
  | some c' =>
    have long := classifyWithin_mono (Nat.le_max_left fuel S.size) classified
    rw [classifyWithin_mono (Nat.le_max_right fuel S.size) found] at long
    exact long

/-- More steps find what classifying finds, and find nothing where it does not. -/
theorem classifyWithin_eq_classify {steps : Nat} (enough : S.size ≤ steps) (i : S.Ref) :
    S.classifyWithin registry steps i = S.classify registry i := by
  cases within : S.classifyWithin registry steps i with
  | some c => exact (classify_of_classifyWithin within).symm
  | none =>
    cases found : S.classify registry i with
    | none => rfl
    | some c => exact absurd (within.symm.trans (classifyWithin_mono enough found)) (by simp)

/-- What a type is classified as, step by step. -/
theorem classify_eq (registry : Registry) (i : S.Ref) :
    S.classify registry i =
      if registry.contains (S.key i) then some (.scalar (S.key i))
      else match (S.descriptor i).form with
        | .scalar => some (.scalar (S.key i))
        | .collection j => S.classify registry j
        | .optional j => S.classify registry j
        | .composite _ => some (.composite i) := by
  rw [← classifyWithin_eq_classify (Nat.le_succ S.size) i]
  rfl

/-- A wrapper is what stands inside it. -/
theorem classify_of_wraps {i j : S.Ref} (step : S.Wraps registry i j) :
    S.classify registry i = S.classify registry j := by
  rw [← classifyWithin_eq_classify (Nat.le_succ S.size) i]
  obtain ⟨free, form | form⟩ := step <;> simp [classifyWithin, classify, free, form]

end TypedQuery.Schema
