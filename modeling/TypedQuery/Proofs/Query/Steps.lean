import TypedQuery.Proofs.Query.Changes
import TypedQuery.Query.Session

/-!
# `after` — what steps do to a session

What builders and queries refer to always exists, whatever encoders are in use; and the encoders in
use are of one kind if those that steps bring in are (`InOrder`). So a step changes at most one of the
registries that exist, and `Step.change?` says which and how (`registry_step`).

Steps are listed from the latest back, which is the direction in which a history is read.
-/

set_option autoImplicit false

namespace TypedQuery

variable {S : Schema}

namespace Session

/-- The session after the steps. -/
def after (past : List (Step S)) : Session S := initial.run past.reverse

theorem after_cons (step : Step S) (past : List (Step S)) :
    after (step :: past) = (after past).step step := by
  unfold after run
  rw [List.reverse_cons, List.foldl_append]
  rfl

/-! ## Sessions in order -/

/-- An encoder that the step gives to a builder or a query is one of those allowed. -/
def Step.Equips (allowed : Encoder → Prop) : Step S → Prop
  | .equipBuilder _ encoder => allowed encoder
  | .equipQuery _ encoder => allowed encoder
  | _ => True

/-- Every registry that is referred to exists, and every encoder in use is one of those allowed. -/
structure InOrder (allowed : Encoder → Prop) (s : Session S) : Prop where
  processWide_lt : processWide < s.registries.length
  builders : ∀ b ∈ s.builders, b.registry < s.registries.length ∧ allowed b.encoder
  queries : ∀ q ∈ s.queries, q.registry < s.registries.length ∧ allowed q.query.encoder

theorem exists_of_mem_modify {α : Type} {f : α → α} {l : List α} {k : Nat} {x : α}
    (mem : x ∈ l.modify k f) : x ∈ l ∨ ∃ y ∈ l, x = f y := by
  obtain ⟨j, hj⟩ := List.getElem?_of_mem mem
  rw [List.getElem?_modify] at hj
  obtain ⟨y, hy, rfl⟩ := Option.map_eq_some_iff.1 hj
  have old := List.mem_of_getElem? hy
  by_cases here : k = j
  · exact Or.inr ⟨y, old, if_pos here⟩
  · exact Or.inl (by rwa [if_neg here])

namespace InOrder

variable {allowed : Encoder → Prop} {s : Session S} (h : s.InOrder allowed)

include h

theorem builder_lt {b : Nat} {builder : Builder} (found : s.builders[b]? = some builder) :
    builder.registry < s.registries.length :=
  (h.builders builder (List.mem_of_getElem? found)).1

theorem query_lt {q : Nat} {query : BoundQuery S} (found : s.queries[q]? = some query) :
    query.registry < s.registries.length :=
  (h.queries query (List.mem_of_getElem? found)).1

theorem onRegistry (r : Nat) (f : Registry → Registry) : (s.onRegistry r f).InOrder allowed := by
  have length : (s.onRegistry r f).registries.length = s.registries.length :=
    List.length_modify ..
  exact ⟨length ▸ h.processWide_lt, fun b hb => length ▸ h.builders b hb,
    fun q hq => length ▸ h.queries q hq⟩

theorem onBuilder (b : Nat) {f : Builder → Builder}
    (keeps : ∀ builder, (f builder).registry = builder.registry ∧
      (allowed builder.encoder → allowed (f builder).encoder)) :
    (s.onBuilder b f).InOrder allowed := by
  refine ⟨h.processWide_lt, fun builder mem => ?_, h.queries⟩
  rcases exists_of_mem_modify mem with kept | ⟨old, was, rfl⟩
  · exact h.builders builder kept
  · obtain ⟨inUse, equipped⟩ := h.builders old was
    exact ⟨(keeps old).1 ▸ inUse, (keeps old).2 equipped⟩

theorem onQuery (q : Nat) {f : Query S → Query S}
    (keeps : ∀ query, allowed query.encoder → allowed (f query).encoder) :
    (s.onQuery q f).InOrder allowed := by
  refine ⟨h.processWide_lt, h.builders, fun query mem => ?_⟩
  rcases exists_of_mem_modify mem with kept | ⟨old, was, rfl⟩
  · exact h.queries query kept
  · obtain ⟨inUse, equipped⟩ := h.queries old was
    exact ⟨inUse, keeps old.query equipped⟩

theorem addBuilder {builder : Builder} (inUse : builder.registry < s.registries.length)
    (equipped : allowed builder.encoder) : (s.addBuilder builder).InOrder allowed := by
  refine ⟨h.processWide_lt, fun b mem => ?_, h.queries⟩
  rcases List.mem_append.1 mem with old | new
  · exact h.builders b old
  · obtain rfl := List.mem_singleton.1 new
    exact ⟨inUse, equipped⟩

theorem addQuery {query : BoundQuery S} (inUse : query.registry < s.registries.length)
    (equipped : allowed query.query.encoder) : (s.addQuery query).InOrder allowed := by
  refine ⟨h.processWide_lt, h.builders, fun q mem => ?_⟩
  rcases List.mem_append.1 mem with old | new
  · exact h.queries q old
  · obtain rfl := List.mem_singleton.1 new
    exact ⟨inUse, equipped⟩

theorem addRegistry (registry : Registry) :
    InOrder allowed { s with registries := s.registries ++ [registry] } := by
  have more : s.registries.length < (s.registries ++ [registry]).length := by simp
  exact ⟨Nat.lt_trans h.processWide_lt more,
    fun b mem => ⟨Nat.lt_trans (h.builders b mem).1 more, (h.builders b mem).2⟩,
    fun q mem => ⟨Nat.lt_trans (h.queries q mem).1 more, (h.queries q mem).2⟩⟩

/-- **A step leaves a session in order**, if the encoders it gives to builders and queries are
    allowed, and that of new ones is. -/
theorem step (default : allowed .default) {step : Step S} (equips : step.Equips allowed) :
    (s.step step).InOrder allowed := by
  cases step with
  | newBuilder source =>
    cases source with
    | fresh =>
      refine (h.addRegistry .builtin).addBuilder ?_ default
      show s.registries.length < (s.registries ++ [Registry.builtin]).length
      simp
    | processWide => exact h.addBuilder h.processWide_lt default
    | sharing b =>
      rw [Session.step]
      cases found : s.builders[b]? with
      | none => exact h
      | some builder =>
        have inUse := h.builder_lt found
        exact h.addBuilder inUse default
    | clone b =>
      rw [Session.step]
      cases found : s.builders[b]? with
      | none => exact h
      | some builder =>
        obtain ⟨inUse, equipped⟩ := h.builders _ (List.mem_of_getElem? found)
        exact h.addBuilder inUse equipped
  | configureBuilder b config => exact h.onBuilder b fun _ => ⟨rfl, id⟩
  | equipBuilder b encoder => exact h.onBuilder b fun _ => ⟨rfl, fun _ => equips⟩
  | build b root =>
    rw [Session.step]
    cases found : s.builders[b]? with
    | none => exact h
    | some builder =>
      obtain ⟨inUse, equipped⟩ := h.builders _ (List.mem_of_getElem? found)
      exact h.addQuery inUse equipped
  | buildDefault root => exact h.addQuery h.processWide_lt default
  | cloneQuery q =>
    rw [Session.step]
    cases found : s.queries[q]? with
    | none => exact h
    | some query =>
      obtain ⟨inUse, equipped⟩ := h.queries _ (List.mem_of_getElem? found)
      exact h.addQuery inUse equipped
  | register b type =>
    rw [Session.step]
    cases s.builders[b]? with
    | none => exact h
    | some builder => exact h.onRegistry builder.registry _
  | registerThrough q type =>
    rw [Session.step]
    cases s.queries[q]? with
    | none => exact h
    | some query => exact h.onRegistry query.registry _
  | registerProcessWide type => exact h.onRegistry processWide _
  | setAlias q field aliasName =>
    rw [Session.step]
    exact h.onQuery q fun _ equipped => equipped
  | addParameter q field name value =>
    rw [Session.step]
    refine h.onQuery q fun query equipped => ?_
    cases added : query.addParameter field name value with
    | error error => exact equipped
    | ok changed =>
      rw [Query.eq_of_change (c := .addParameter name value) added]
      exact equipped
  | configureQuery q config =>
    rw [Session.step]
    exact h.onQuery q fun _ equipped => equipped
  | equipQuery q encoder =>
    rw [Session.step]
    exact h.onQuery q fun _ _ => equips
  | compile q =>
    rw [Session.step]
    cases s.queries[q]? with
    | none => exact h
    | some query => exact h.onRegistry query.registry _
  | encodeFor b encoder value =>
    rw [Session.step]
    cases s.builders[b]? with
    | none => exact h
    | some builder => exact h.onRegistry builder.registry _

end InOrder

theorem inOrder_after {allowed : Encoder → Prop} (default : allowed .default)
    {past : List (Step S)} (equips : ∀ step ∈ past, step.Equips allowed) :
    (after past).InOrder allowed := by
  induction past with
  | nil =>
    refine ⟨Nat.zero_lt_two, fun b mem => ?_, fun q mem => absurd mem List.not_mem_nil⟩
    obtain rfl := List.mem_singleton.1 mem
    exact ⟨Nat.one_lt_two, default⟩
  | cons step past ih =>
    rw [after_cons]
    have before := ih fun s mem => equips s (List.mem_cons_of_mem _ mem)
    exact before.step default (equips step List.mem_cons_self)

/-- What is referred to exists, whatever encoders are in use. -/
theorem inRange_after (past : List (Step S)) : (after past).InOrder fun _ => True := by
  apply inOrder_after trivial
  intro step _
  cases step <;> exact trivial

/-! ## One registry at most -/

/-- The registry that a step changes, and how. -/
def Step.change? (s : Session S) : Step S → Option (Nat × (Registry → Registry))
  | .register b type => (s.builders[b]?).map fun builder => (builder.registry, (·.register type))
  | .registerThrough q type => (s.queries[q]?).map fun query => (query.registry, (·.register type))
  | .registerProcessWide type => some (processWide, (·.register type))
  | .compile q =>
    (s.queries[q]?).map fun query => (query.registry, fun _ => (s.compiled query).registry)
  | .encodeFor b encoder value =>
    (s.builders[b]?).map fun builder =>
      (builder.registry, (·.registerAll (encoder.encode value).registered))
  | _ => none

theorem registry_onRegistry {s : Session S} {r : Nat} (inUse : r < s.registries.length)
    (f : Registry → Registry) (other : Nat) :
    (s.onRegistry r f).registry other =
      if other = r then f (s.registry other) else s.registry other := by
  unfold registry onRegistry
  rw [List.getD_eq_getElem?_getD, List.getElem?_modify, List.getD_eq_getElem?_getD]
  by_cases same : other = r
  · subst same
    rw [List.getElem?_eq_getElem inUse]
    simp
  · have apart : r ≠ other := fun h => same h.symm
    simp [same, apart]

/-- A fresh registry shows only where there was none, which reads as a fresh one already. -/
theorem getD_append_builtin (registries : List Registry) (r : Nat) :
    (registries ++ [Registry.builtin]).getD r .builtin = registries.getD r .builtin := by
  rw [List.getD_eq_getElem?_getD, List.getD_eq_getElem?_getD, List.getElem?_append]
  split
  · rfl
  · rename_i beyond
    rw [List.getElem?_eq_none (Nat.le_of_not_lt beyond), List.getElem?_singleton]
    split <;> rfl

/-- **What a step does to the registries that exist.** New ones do not show in them. -/
theorem registry_step {allowed : Encoder → Prop} {s : Session S} (inOrder : s.InOrder allowed)
    (step : Step S) (r : Nat) :
    (s.step step).registry r =
      match step.change? s with
      | some (r', f) => if r = r' then f (s.registry r) else s.registry r
      | none => s.registry r := by
  cases step with
  | newBuilder source =>
    cases source with
    | fresh => exact getD_append_builtin s.registries r
    | processWide => rfl
    | sharing b =>
      rw [Session.step]
      cases s.builders[b]? <;> rfl
    | clone b =>
      rw [Session.step]
      cases s.builders[b]? <;> rfl
  | build b root =>
    rw [Session.step]
    cases s.builders[b]? <;> rfl
  | cloneQuery q =>
    rw [Session.step]
    cases s.queries[q]? <;> rfl
  | register b type =>
    rw [Session.step, Step.change?]
    cases found : s.builders[b]? with
    | none => rfl
    | some builder => exact registry_onRegistry (inOrder.builder_lt found) _ r
  | registerThrough q type =>
    rw [Session.step, Step.change?]
    cases found : s.queries[q]? with
    | none => rfl
    | some query => exact registry_onRegistry (inOrder.query_lt found) _ r
  | registerProcessWide type => exact registry_onRegistry inOrder.processWide_lt _ r
  | compile q =>
    rw [Session.step, Step.change?]
    cases found : s.queries[q]? with
    | none => rfl
    | some query => exact registry_onRegistry (inOrder.query_lt found) _ r
  | encodeFor b encoder value =>
    rw [Session.step, Step.change?]
    cases found : s.builders[b]? with
    | none => rfl
    | some builder => exact registry_onRegistry (inOrder.builder_lt found) _ r
  | _ => rfl

end Session
end TypedQuery
