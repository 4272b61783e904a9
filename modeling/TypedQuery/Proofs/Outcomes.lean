import Mathlib.Data.List.Forall2

/-!
# `mapM` over outcomes — all succeed, or the first that does not

A traversal of a list by a function that may fail succeeds when every element does, and then
returns the results in order; otherwise it fails as the first element that fails. Every walk over
the members of a type is such a traversal, so the two equivalences here are what the inductions
over expansions open their steps with.
-/

set_option autoImplicit false

namespace TypedQuery.Outcome

variable {ε α β γ : Type}

theorem map_eq_ok_iff {f : α → β} {r : Except ε α} {b : β} :
    r.map f = .ok b ↔ ∃ a, r = .ok a ∧ f a = b := by
  cases r with
  | error e => simp [Except.map]
  | ok a => simp [Except.map]

theorem map_eq_error_iff {f : α → β} {r : Except ε α} {e : ε} :
    r.map f = .error e ↔ r = .error e := by
  cases r with
  | error e' => simp [Except.map]
  | ok a => simp [Except.map]

theorem exists_map_eq_ok_iff {f : α → β} {r : Except ε α} :
    (∃ b, r.map f = .ok b) ↔ ∃ a, r = .ok a := by
  cases r <;> simp [Except.map]

theorem mapError_eq_ok_iff {ε' : Type} {f : ε → ε'} {r : Except ε α} {a : α} :
    r.mapError f = .ok a ↔ r = .ok a := by
  cases r with
  | error e => simp [Except.mapError]
  | ok a' => simp [Except.mapError]

theorem mapError_eq_error_iff {ε' : Type} {f : ε → ε'} {r : Except ε α} {e' : ε'} :
    r.mapError f = .error e' ↔ ∃ e, r = .error e ∧ f e = e' := by
  cases r with
  | error e => simp [Except.mapError]
  | ok a => simp [Except.mapError]

theorem bind_eq_ok_iff {r : Except ε α} {f : α → Except ε β} {b : β} :
    (r >>= f) = .ok b ↔ ∃ a, r = .ok a ∧ f a = .ok b := by
  cases r with
  | error e => simp [bind, Except.bind]
  | ok a => simp [bind, Except.bind]

theorem bind_eq_error_iff {r : Except ε α} {f : α → Except ε β} {e : ε} :
    (r >>= f) = .error e ↔ r = .error e ∨ ∃ a, r = .ok a ∧ f a = .error e := by
  cases r with
  | error e' => simp [bind, Except.bind]
  | ok a => simp [bind, Except.bind]

theorem exists_error_iff {r : Except ε α} : (∃ e, r = .error e) ↔ ¬ ∃ a, r = .ok a := by
  cases r <;> simp

/-- A traversal succeeds exactly with the results of the elements, in order. -/
theorem mapM_eq_ok_iff {f : α → Except ε β} {xs : List α} {ys : List β} :
    xs.mapM f = .ok ys ↔ List.Forall₂ (fun x y => f x = .ok y) xs ys := by
  induction xs generalizing ys with
  | nil =>
    rw [List.mapM_nil, List.forall₂_nil_left_iff]
    exact ⟨fun h => (Except.ok.inj h).symm, fun h => h ▸ rfl⟩
  | cons x rest ih =>
    rw [List.mapM_cons, bind_eq_ok_iff, List.forall₂_cons_left_iff]
    constructor
    · rintro ⟨y, hy, h⟩
      obtain ⟨zs, hzs, h⟩ := bind_eq_ok_iff.1 h
      exact ⟨y, zs, hy, ih.1 hzs, (Except.ok.inj h).symm⟩
    · rintro ⟨y, zs, hy, hzs, rfl⟩
      exact ⟨y, hy, bind_eq_ok_iff.2 ⟨zs, ih.2 hzs, rfl⟩⟩

/-- A traversal fails exactly as the first element that fails. -/
theorem mapM_eq_error_iff {f : α → Except ε β} {xs : List α} {e : ε} :
    xs.mapM f = .error e ↔
      ∃ (k : Nat) (x : α), xs[k]? = some x ∧ f x = .error e ∧
        ∀ j < k, ∀ y, xs[j]? = some y → ∃ z, f y = .ok z := by
  induction xs with
  | nil =>
    rw [List.mapM_nil]
    simp [pure, Except.pure]
  | cons x rest ih =>
    rw [List.mapM_cons, bind_eq_error_iff]
    constructor
    · rintro (hx | ⟨z, hz, h⟩)
      · exact ⟨0, x, rfl, hx, fun j hj => absurd hj (Nat.not_lt_zero j)⟩
      · rcases bind_eq_error_iff.1 h with h | ⟨_, _, h⟩
        · obtain ⟨k, y, hy, he, before⟩ := ih.1 h
          refine ⟨k + 1, y, hy, he, fun j hj w hw => ?_⟩
          cases j with
          | zero => exact ⟨z, Option.some.inj hw ▸ hz⟩
          | succ j => exact before j (Nat.lt_of_succ_lt_succ hj) w hw
        · exact absurd h (by simp [pure, Except.pure])
    · rintro ⟨k, y, hy, he, before⟩
      cases k with
      | zero =>
        rw [List.getElem?_cons_zero, Option.some.injEq] at hy
        exact Or.inl (hy ▸ he)
      | succ k =>
        obtain ⟨z, hz⟩ := before 0 (Nat.succ_pos k) x rfl
        refine Or.inr ⟨z, hz, bind_eq_error_iff.2 (Or.inl (ih.2 ⟨k, y, hy, he, ?_⟩))⟩
        exact fun j hj => before (j + 1) (Nat.succ_lt_succ hj)

/-- Lists that are related element by element are related at every position. -/
theorem rel_getElem?_of_forall₂ {R : α → β → Prop} {xs : List α} {ys : List β}
    (h : List.Forall₂ R xs ys) (k : Nat) : Option.Rel R xs[k]? ys[k]? := by
  induction h generalizing k with
  | nil => exact .none
  | cons hxy _ ih =>
    cases k with
    | zero => exact .some hxy
    | succ k => exact ih k

theorem exists_getElem?_of_forall₂ {R : α → β → Prop} {xs : List α} {ys : List β}
    (h : List.Forall₂ R xs ys) {k : Nat} {x : α} (hx : xs[k]? = some x) :
    ∃ y, ys[k]? = some y ∧ R x y := by
  have related := rel_getElem?_of_forall₂ h k
  rw [hx] at related
  cases hy : ys[k]? with
  | none => rw [hy] at related; cases related
  | some y =>
    rw [hy] at related
    cases related with
    | some hxy => exact ⟨y, rfl, hxy⟩

theorem exists_mem_of_forall₂ {R : α → β → Prop} {xs : List α} {ys : List β}
    (h : List.Forall₂ R xs ys) {x : α} (mem : x ∈ xs) : ∃ y ∈ ys, R x y := by
  obtain ⟨k, hk⟩ := List.getElem?_of_mem mem
  obtain ⟨y, hy, hxy⟩ := exists_getElem?_of_forall₂ h hk
  exact ⟨y, List.mem_of_getElem? hy, hxy⟩

/-- What is found for each pair of related elements makes a list of its own. -/
theorem exists_forall₂ {R : α → β → Prop} {P : α → γ → Prop} {Q : β → γ → Prop} {xs : List α}
    {ys : List β} (h : List.Forall₂ R xs ys)
    (found : ∀ x y, R x y → ∃ z, P x z ∧ Q y z) :
    ∃ zs, List.Forall₂ P xs zs ∧ List.Forall₂ Q ys zs := by
  induction h with
  | nil => exact ⟨[], .nil, .nil⟩
  | cons hxy _ ih =>
    obtain ⟨z, hp, hq⟩ := found _ _ hxy
    obtain ⟨zs, left, right⟩ := ih
    exact ⟨z :: zs, .cons hp left, .cons hq right⟩

/-- What is done to each result of a traversal may be done to all of them afterwards. -/
theorem map_mapM (f : α → Except ε β) (g : β → γ) (xs : List α) :
    (xs.mapM f).map (List.map g) = xs.mapM fun x => (f x).map g := by
  induction xs with
  | nil => rfl
  | cons x rest ih =>
    rw [List.mapM_cons, List.mapM_cons, ← ih]
    cases f x with
    | error e => rfl
    | ok y => cases rest.mapM f <;> rfl

/-- Traversals of lists whose elements give the same, one by one, give the same. -/
theorem mapM_congr {f : α → Except ε γ} {g : β → Except ε γ} {xs : List α} {ys : List β}
    (same : List.Forall₂ (fun x y => f x = g y) xs ys) : xs.mapM f = ys.mapM g := by
  induction same with
  | nil => rfl
  | cons here _ ih => rw [List.mapM_cons, List.mapM_cons, here, ih]

/-- Errors may be renamed before a result is used, or after. -/
theorem mapError_map {ε' : Type} (r : Except ε α) (f : α → β) (g : ε → ε') :
    (r.map f).mapError g = (r.mapError g).map f := by
  cases r <;> rfl

/-- The errors of a traversal may be renamed element by element. -/
theorem mapError_mapM {ε' : Type} (f : α → Except ε β) (g : ε → ε') (xs : List α) :
    (xs.mapM f).mapError g = xs.mapM fun x => (f x).mapError g := by
  induction xs with
  | nil => rfl
  | cons x rest ih =>
    rw [List.mapM_cons, List.mapM_cons, ← ih]
    cases f x with
    | error e => rfl
    | ok y => cases rest.mapM f <;> rfl

/-! ## The first of several errors -/

/-- A result, unless there are errors; then the first of them. -/
def okUnless (errors : List ε) (a : α) : Except ε α :=
  match errors with
  | [] => .ok a
  | e :: _ => .error e

theorem okUnless_eq_ok_iff {errors : List ε} {a b : α} :
    okUnless errors a = .ok b ↔ errors = [] ∧ a = b := by
  cases errors <;> simp [okUnless]

theorem okUnless_eq_error_iff {errors : List ε} {a : α} {e : ε} :
    okUnless errors a = .error e ↔ errors.head? = some e := by
  cases errors <;> simp [okUnless]

theorem map_okUnless (f : α → β) (errors : List ε) (a : α) :
    (okUnless errors a).map f = okUnless errors (f a) := by
  cases errors <;> rfl

/-- What is done with the result adds its errors at the end. -/
theorem okUnless_bind {f : α → Except ε β} {errors errors' : List ε} {a : α} {b : β}
    (next : f a = okUnless errors' b) :
    (okUnless errors a >>= f) = okUnless (errors ++ errors') b := by
  cases errors with
  | nil => exact next
  | cons e rest => rfl

theorem mapM_okUnless {f : α → Except ε β} {errors : α → List ε} {g : α → β} {xs : List α}
    (each : ∀ x ∈ xs, f x = okUnless (errors x) (g x)) :
    xs.mapM f = okUnless (xs.flatMap errors) (xs.map g) := by
  induction xs with
  | nil => rfl
  | cons x rest ih =>
    obtain ⟨here, below⟩ := List.forall_mem_cons.1 each
    rw [List.mapM_cons, here, ih below, List.flatMap_cons]
    refine okUnless_bind ?_
    cases rest.flatMap errors <;> rfl

end TypedQuery.Outcome
