import TypedQuery.Proofs.Query.Compositional
import TypedQuery.Proofs.Query.Histories

/-!
# Isolation — a query sees its own history and the types on its registry

`getElem?_queries_eq` is the invariant: after any steps the queries of a session are those that the
records describe, and where there is no record there is no query. So both accounts can be read off
the steps (`record_build`, `registration?_after`). Together with what the registries hold it makes
the outcome of compiling a function of a record and of a set of types (`compiled_of_record`). A later
step that is not aimed at the query and registers nothing on its registry is in neither, so it
changes nothing: not a builder's new settings, not metadata of a clone or of the query it was cloned
from, not a registration elsewhere.
-/

set_option autoImplicit false

namespace TypedQuery

variable {S : Schema}

/-- Of a registry a query reads which types of the family it holds, and nothing else. -/
theorem Query.outcome_compile_congr (q : Query S) {registry registry' : Registry}
    (same : ∀ i, registry'.contains (S.key i) = registry.contains (S.key i)) :
    (q.compile registry').outcome = (q.compile registry).outcome := by
  cases encoded : (q.metadata.encodeParameters q.encoder).outcome with
  | error error => rw [outcome_compile_of_error encoded, outcome_compile_of_error encoded]
  | ok arguments =>
    rw [outcome_compile_of_ok encoded, outcome_compile_of_ok encoded, registry_compile,
      registry_compile]
    refine Expansion.root_against_of_same ⟨_, q.metadata, arguments, q.config⟩ ?_ q.root
    intro i
    rw [Registry.contains_registerAll, Registry.contains_registerAll, same]

theorem Query.addParameter_or_self (q : Query S) (field : FieldId) (name : String)
    (value : Value) :
    (match q.addParameter field name value with
      | .ok changed => changed
      | .error _ => q) =
      { q with metadata := q.metadata.operate (field, .addParameter name value) } := by
  unfold Query.addParameter Metadata.operate
  dsimp only
  cases q.metadata.addParameter field name value <;> rfl

namespace Session

/-- The query that a record describes, on its registry. -/
def Record.bound (r : Record S) : BoundQuery S := ⟨r.registry, r.query⟩

theorem Record.query_operate (r : Record S) (id : FieldId) (change : Change) :
    (r.operate id change).query =
      { r.query with metadata := r.query.metadata.operate (id, change) } := by
  unfold Record.query Record.operate
  rw [List.foldl_append]
  rfl

/-! ## One step, seen from a query -/

theorem getElem?_addQuery (s : Session S) (query : BoundQuery S) (q : Nat) :
    (s.addQuery query).queries[q]? =
      if q = s.queries.length then some query else s.queries[q]? := by
  unfold addQuery
  rw [List.getElem?_append]
  split
  · rename_i old
    rw [if_neg (Nat.ne_of_lt old)]
  · rename_i beyond
    by_cases new : q = s.queries.length
    · rw [if_pos new, new, Nat.sub_self]
      rfl
    · rw [if_neg new, List.getElem?_eq_none (by simp; omega), List.getElem?_eq_none (by omega)]

theorem getElem?_onQuery (s : Session S) (p : Nat) (f : Query S → Query S) (q : Nat) :
    (s.onQuery p f).queries[q]? =
      if q = p then (s.queries[q]?).map fun bound => { bound with query := f bound.query }
      else s.queries[q]? := by
  unfold onQuery
  rw [List.getElem?_modify]
  by_cases here : q = p
  · subst here
    simp
  · have apart : p ≠ q := fun h => here h.symm
    simp [here, apart]

/-- **After any steps the queries are those that the records describe.** -/
theorem getElem?_queries_eq (past : List (Step S)) (q : Nat) :
    (after past).queries[q]? = (record past q).map Record.bound := by
  induction past generalizing q with
  | nil => rfl
  | cons step past ih =>
    rw [after_cons]
    -- a step that makes no query leaves the next number free
    have free : q = (after past).queries.length → (after past).queries[q]? = none :=
      fun next => List.getElem?_eq_none (Nat.le_of_eq next.symm)
    cases step with
    | newBuilder source =>
      refine Eq.trans (congrArg (·[q]?) ?_) (ih q)
      cases source with
      | fresh => rfl
      | processWide => rfl
      | sharing b =>
        rw [Session.step]
        cases (after past).builders[b]? <;> rfl
      | clone b =>
        rw [Session.step]
        cases (after past).builders[b]? <;> rfl
    | configureBuilder b config => exact ih q
    | equipBuilder b encoder => exact ih q
    | build b root =>
      rw [Session.step, record]
      cases (after past).builders[b]? with
      | none =>
        show (after past).queries[q]? = _
        split
        · rename_i next
          exact free next
        · exact ih q
      | some builder =>
        show ((after past).addQuery (builder.build root)).queries[q]? = _
        rw [getElem?_addQuery]
        split
        · rfl
        · exact ih q
    | buildDefault root =>
      rw [Session.step, record, getElem?_addQuery]
      split
      · rfl
      · exact ih q
    | cloneQuery p =>
      rw [Session.step, record]
      have source := ih p
      cases found : (after past).queries[p]? with
      | none =>
        show (after past).queries[q]? = _
        split
        · rename_i next
          rw [← source, found]
          exact free next
        · exact ih q
      | some bound =>
        show ((after past).addQuery bound).queries[q]? = _
        rw [getElem?_addQuery]
        split
        · exact found.symm.trans source
        · exact ih q
    | register b type =>
      refine Eq.trans (congrArg (·[q]?) ?_) (ih q)
      rw [Session.step]
      cases (after past).builders[b]? <;> rfl
    | registerThrough p type =>
      refine Eq.trans (congrArg (·[q]?) ?_) (ih q)
      rw [Session.step]
      cases (after past).queries[p]? <;> rfl
    | registerProcessWide type => exact ih q
    | setAlias p field aliasName =>
      rw [Session.step, record, getElem?_onQuery, ih q]
      split
      · cases record past q with
        | none => rfl
        | some r =>
          show some _ =
            some (BoundQuery.mk r.registry (r.operate field (.setAlias aliasName)).query)
          rw [Record.query_operate]
          rfl
      · rfl
    | addParameter p field name value =>
      rw [Session.step, record, getElem?_onQuery, ih q]
      split
      · cases record past q with
        | none => rfl
        | some r =>
          show some _ =
            some (BoundQuery.mk r.registry (r.operate field (.addParameter name value)).query)
          rw [Record.query_operate, ← Query.addParameter_or_self]
          rfl
      · rfl
    | configureQuery p config =>
      rw [Session.step, record, getElem?_onQuery, ih q]
      split
      · cases record past q <;> rfl
      · rfl
    | equipQuery p encoder =>
      rw [Session.step, record, getElem?_onQuery, ih q]
      split
      · cases record past q <;> rfl
      · rfl
    | compile p =>
      refine Eq.trans (congrArg (·[q]?) ?_) (ih q)
      rw [Session.step]
      cases (after past).queries[p]? <;> rfl
    | encodeFor b encoder value =>
      refine Eq.trans (congrArg (·[q]?) ?_) (ih q)
      rw [Session.step]
      cases (after past).builders[b]? <;> rfl

/-- A query is built with the settings that the steps on its builder left. -/
theorem record_build (past : List (Step S)) (b : Nat) (root : S.Ref) (q : Nat) :
    record (.build b root :: past) q =
      if q = queryCount past then ((buildersOf past)[b]?).map (Record.new · root)
      else record past q := by
  rw [record, length_queries_after, builders_after]

/-- A registration reaches the registry that the builder was made on, or the query built on. -/
theorem registration?_after (past : List (Step S)) (step : Step S) :
    step.registration? (after past) =
      match step with
      | .register b type => ((buildersOf past)[b]?).map fun builder => (builder.registry, type)
      | .registerThrough q type => (record past q).map fun r => (r.registry, type)
      | .registerProcessWide type => some (processWide, type)
      | _ => none := by
  cases step with
  | register b type => rw [Step.registration?, builders_after]
  | registerThrough q type =>
    rw [Step.registration?, getElem?_queries_eq, Option.map_map]
    rfl
  | _ => rfl

theorem exists_record {past : List (Step S)} {q : Nat} {bound : BoundQuery S}
    (inUse : (after past).queries[q]? = some bound) :
    ∃ r, record past q = some r ∧ bound = r.bound := by
  rw [getElem?_queries_eq] at inUse
  obtain ⟨r, hr, same⟩ := Option.map_eq_some_iff.1 inUse
  exact ⟨r, hr, same.symm⟩

/-- Steps that are not aimed at a query leave its record. -/
theorem record_append {past later : List (Step S)} {q : Nat} {r : Record S}
    (hr : record past q = some r) (aside : ∀ step ∈ later, step.target? ≠ some q) :
    record (later ++ past) q = some r := by
  induction later with
  | nil => exact hr
  | cons step later ih =>
    have before := ih fun s mem => aside s (List.mem_cons_of_mem _ mem)
    have missed := aside step List.mem_cons_self
    -- the query has a number already, so no step makes it
    have old : q ≠ (after (later ++ past)).queries.length := by
      have present := getElem?_queries_eq (later ++ past) q
      rw [before] at present
      exact Nat.ne_of_lt (List.getElem?_eq_some_iff.1 present).1
    rw [List.cons_append]
    cases step with
    | build b root => rw [record, if_neg old, before]
    | buildDefault root => rw [record, if_neg old, before]
    | cloneQuery p => rw [record, if_neg old, before]
    | setAlias p field aliasName =>
      rw [record, if_neg fun here => missed (congrArg some here.symm), before]
    | addParameter p field name value =>
      rw [record, if_neg fun here => missed (congrArg some here.symm), before]
    | configureQuery p config =>
      rw [record, if_neg fun here => missed (congrArg some here.symm), before]
    | equipQuery p encoder =>
      rw [record, if_neg fun here => missed (congrArg some here.symm), before]
    | newBuilder source => exact before
    | configureBuilder b config => exact before
    | equipBuilder b encoder => exact before
    | register b type => exact before
    | registerThrough p type => exact before
    | registerProcessWide type => exact before
    | compile p => exact before
    | encodeFor b encoder value => exact before

/-! ## What a query compiles to -/

/-- What a query compiles to is what its record does against any registry that holds the builtin
    types and those registered on its own. -/
theorem compiled_of_record {past : List (Step S)} (pure : ∀ step ∈ past, step.IsPure)
    (r : Record S) {registry : Registry}
    (holds : ∀ key, registry.contains key =
      (Registry.builtin.contains key || (registeredOn past r.registry).any (key == ·))) :
    ((after past).compiled r.bound).outcome = (r.query.compile registry).outcome := by
  refine r.query.outcome_compile_congr fun i => ?_
  rw [holds, ← contains_registry_after pure]
  rfl

/-- **Sharing and isolation.** After any steps whose encoders only encode, what a query compiles to
    is a function of its record and of the set of types registered on its registry: every registry
    of that set gives it. Later steps change it only where they are aimed at the query or register
    another type on its registry. -/
theorem compiled_of_history {past : List (Step S)} (pure : ∀ step ∈ past, step.IsPure) {q : Nat}
    {bound : BoundQuery S} (inUse : (after past).queries[q]? = some bound) :
    ∃ r, record past q = some r ∧
      (∀ registry : Registry,
        (∀ key, registry.contains key =
          (Registry.builtin.contains key || (registeredOn past r.registry).any (key == ·))) →
        ((after past).compiled bound).outcome = (r.query.compile registry).outcome) ∧
      ∀ later : List (Step S), (∀ step ∈ later, step.IsPure ∧ step.target? ≠ some q) →
        (∀ key, (registeredOn (later ++ past) r.registry).any (key == ·) =
          (registeredOn past r.registry).any (key == ·)) →
        ∃ bound', (after (later ++ past)).queries[q]? = some bound' ∧
          ((after (later ++ past)).compiled bound').outcome =
            ((after past).compiled bound).outcome := by
  obtain ⟨r, hr, rfl⟩ := exists_record inUse
  refine ⟨r, hr, fun registry holds => compiled_of_record pure r holds, ?_⟩
  intro later aside unregistered
  have pureAll : ∀ step ∈ later ++ past, step.IsPure := by
    intro step mem
    rcases List.mem_append.1 mem with new | old
    · exact (aside step new).1
    · exact pure step old
  refine ⟨r.bound, ?_, ?_⟩
  · rw [getElem?_queries_eq, record_append hr fun step mem => (aside step mem).2]
    rfl
  · -- both are what the record compiles to against the registry of before
    have now := contains_registry_after pure r.registry
    rw [compiled_of_record pureAll r fun key => (now key).trans (by rw [unregistered]),
      compiled_of_record pure r now]

end Session

namespace pairs

open Session

/-- A query over pairs with an alias, a clone of it, and items registered through the clone. -/
def steps : List (Step pairs) :=
  [.registerThrough 1 (pairs.key item), .cloneQuery 0, .setAlias 0 pairFoo.id "first",
    .build 0 pair]

/-- Another alias for the clone, other settings for the builder, and a pair registered elsewhere. -/
def laterSteps : List (Step pairs) :=
  [.register 1 (pairs.key pair), .newBuilder .fresh, .configureBuilder 0 ⟨.preserve⟩,
    .setAlias 1 pairFoo.id "second"]

/-- The query sees the registration that was made through its clone, and nothing of what follows. -/
theorem steps_isolated :
    (∀ step ∈ steps, step.IsPure) ∧
      ∃ bound, (after steps).queries[0]? = some bound ∧
        ((after steps).compiled bound).outcome =
          ((Query.mk pair .default .default (Metadata.empty.setAlias pairFoo.id "first")).compile
            (Registry.builtin.register (pairs.key item))).outcome ∧
        ∃ bound', (after (laterSteps ++ steps)).queries[0]? = some bound' ∧
          ((after (laterSteps ++ steps)).compiled bound').outcome =
            ((after steps).compiled bound).outcome := by
  have pure : ∀ step ∈ steps, step.IsPure := by simp [steps, Step.IsPure]
  refine ⟨pure, _, rfl, ?_⟩
  obtain ⟨r, hr, compiled, isolated⟩ := compiled_of_history (q := 0) pure rfl
  obtain rfl := Option.some.inj hr
  refine ⟨compiled _ fun key => ?_, isolated laterSteps ?_ ?_⟩
  · have registered : registeredOn steps 1 = [pairs.key item] := rfl
    show _ = (Registry.builtin.contains key || (registeredOn steps 1).any (key == ·))
    rw [registered, Registry.contains_register, List.any_cons, List.any_nil, Bool.or_false]
  · simp [laterSteps, Step.IsPure, Step.target?]
  · exact fun _ => rfl

end pairs

end TypedQuery
