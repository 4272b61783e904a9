import TypedQuery.Proofs.Query.Registrations
import TypedQuery.Proofs.Query.Visiting

/-!
# `compileWith` — encoders that register types while they encode

An encoder may remember what it was asked before, look at the registry of the query, and register
types on it at once, while other parameters are still to be encoded. `compileWith` compiles with
such an encoder in a `World` that holds its memory, the registry, and a record of its calls; for an
encoder that does none of this it is `compile` (`compileWith_stateful`).

The registry is read once, after the last call. So compiling is **registering first, as a whole, and
then compiling with the literals that came back** (`outcome_compileWith`), in whatever
order the types are registered: what an expansion reads of a registry is which types it holds.
-/

set_option autoImplicit false

namespace TypedQuery

theorem Registry.registerAll_append (registry : Registry) (keys more : List TypeKey) :
    registry.registerAll (keys ++ more) = (registry.registerAll keys).registerAll more :=
  List.foldl_append ..

/-! ## Encoders that act -/

/-- An encoder with a memory that sees the registry. What it registers for a value, it registers
    while it encodes that value. -/
structure StatefulEncoder (σ : Type) where
  encode : σ → Registry → Value → Encoding String × σ

/-- An encoder that neither remembers nor looks. -/
def Encoder.stateful (e : Encoder) : StatefulEncoder Unit := ⟨fun _ _ value => (e.encode value, ())⟩

/-- A value that an encoder was called with, and what came of it. -/
structure Call where
  value : Value
  answer : Encoding String

/-- What encoding changes; the record of the calls is there to speak of them. -/
structure World (σ : Type) where
  memory : σ
  registry : Registry
  calls : List Call

def World.start {σ : Type} (memory : σ) (registry : Registry) : World σ := ⟨memory, registry, []⟩

/-- What is done in a world, which it changes whether it succeeds or not. -/
abbrev Action (σ α : Type) : Type := World σ → Except EncodeError α × World σ

namespace Action

variable {σ α β : Type}

def done (a : α) : Action σ α := fun w => (.ok a, w)

/-- One action after the other. The second does not take place when the first fails. -/
def andThen (first : Action σ α) (next : α → Action σ β) : Action σ β := fun w =>
  match first w with
  | (.error error, w') => (.error error, w')
  | (.ok a, w') => next a w'

variable {first : Action σ α} {next : α → Action σ β} {w w' : World σ}

theorem andThen_of_ok {a : α} (ran : first w = (.ok a, w')) : first.andThen next w = next a w' := by
  rw [andThen, ran]

theorem andThen_of_error {error : EncodeError} (ran : first w = (.error error, w')) :
    first.andThen next w = (.error error, w') := by
  rw [andThen, ran]

end Action

namespace StatefulEncoder

variable {σ : Type} (e : StatefulEncoder σ)

def call (value : Value) : Action σ String := fun w =>
  let (answer, memory) := e.encode w.memory w.registry value
  (answer.outcome, ⟨memory, w.registry.registerAll answer.registered, w.calls ++ [⟨value, answer⟩]⟩)

/-- Encodes named values in order, up to the first failure. -/
def encodeAll : List (String × Value) → Action σ (List (String × String))
  | [] => .done []
  | (name, value) :: rest =>
    (e.call value).andThen fun literal =>
      (encodeAll rest).andThen fun others => .done ((name, literal) :: others)

/-- Encodes the parameters of fields, field by field, up to the first failure. -/
def encodeFields : List (FieldId × List (String × Value)) → Action σ Arguments
  | [] => .done []
  | (id, parameters) :: rest =>
    if parameters.isEmpty then encodeFields rest
    else
      (e.encodeAll parameters).andThen fun arguments =>
        (encodeFields rest).andThen fun others => .done ((id, arguments) :: others)

/-- Hands out literals, one for each value whatever it is, and registers nothing. -/
def replay : StatefulEncoder (List String) :=
  ⟨fun literals _ _ => (⟨.ok (literals.headD ""), []⟩, literals.tail)⟩

end StatefulEncoder

namespace Query

variable {S : Schema}

/-- Compiles into a selection with an encoder that acts while it encodes. -/
def compileWith {σ : Type} (q : Query S) (e : StatefulEncoder σ) (w : World σ) :
    Except QueryError SelectionSet × World σ :=
  match e.encodeFields q.metadata.parameters w with
  | (.error error, w') => (.error (.encode error), w')
  | (.ok arguments, w') =>
    ((Expansion.mk w'.registry q.metadata arguments q.config : Expansion S).root q.root, w')

end Query

/-! ## Encoders that only answer -/

namespace Action

variable {α β γ : Type}

/-- The action comes to the same as an encoding whose types are registered at its end. -/
def Performs (action : Action Unit α) (encoding : Encoding α) : Prop :=
  ∀ w, (action w).1 = encoding.outcome ∧
    (action w).2.registry = w.registry.registerAll encoding.registered

theorem performs_done (a : α) : Performs (done a) (.done a) := fun _ => ⟨rfl, rfl⟩

theorem Performs.andThen {first : Action Unit α} {encoding : Encoding α}
    {next : α → Action Unit β} {encodings : α → Encoding β} (hfirst : first.Performs encoding)
    (hnext : ∀ a, (next a).Performs (encodings a)) :
    (first.andThen next).Performs (encoding.andThen encodings) := by
  intro w
  obtain ⟨houtcome, hregistry⟩ := hfirst w
  unfold Encoding.andThen
  rw [← houtcome]
  rcases ran : first w with ⟨outcome, w'⟩
  rw [ran] at hregistry
  cases outcome with
  | error error =>
    rw [andThen_of_error ran]
    exact ⟨rfl, hregistry⟩
  | ok a =>
    obtain ⟨houtcome', hregistry'⟩ := hnext a w'
    rw [andThen_of_ok ran]
    refine ⟨houtcome', ?_⟩
    rw [hregistry', hregistry, Registry.registerAll_append]

variable (e : Encoder)

theorem performs_encodeAll (parameters : List (String × Value)) :
    Performs (e.stateful.encodeAll parameters) (e.encodeAll parameters) := by
  induction parameters with
  | nil => exact performs_done []
  | cons p rest ih =>
    have called : Performs (e.stateful.call p.2) (e.encode p.2) := fun _ => ⟨rfl, rfl⟩
    exact called.andThen fun literal => ih.andThen fun others => performs_done _

theorem performs_encodeFields (fields : List (FieldId × List (String × Value))) :
    Performs (e.stateful.encodeFields fields) (Metadata.encodeFields e fields) := by
  induction fields with
  | nil => exact performs_done []
  | cons field rest ih =>
    obtain ⟨id, parameters⟩ := field
    unfold StatefulEncoder.encodeFields Metadata.encodeFields
    split
    · exact ih
    · refine (performs_encodeAll e parameters).andThen fun arguments => ?_
      exact ih.andThen fun others => performs_done _

end Action

namespace Query

variable {S : Schema}

theorem compileWith_stateful (q : Query S) (registry : Registry) :
    (q.compileWith q.encoder.stateful (.start () registry)).1 = (q.compile registry).outcome ∧
      (q.compileWith q.encoder.stateful (.start () registry)).2.registry =
        (q.compile registry).registry := by
  obtain ⟨houtcome, hregistry⟩ :=
    Action.performs_encodeFields q.encoder q.metadata.parameters (.start () registry)
  rcases ran : q.encoder.stateful.encodeFields q.metadata.parameters (.start () registry) with
    ⟨outcome, w⟩
  rw [ran] at houtcome hregistry
  have held : w.registry = (q.compile registry).registry :=
    hregistry.trans (q.registry_compile registry).symm
  unfold compileWith
  rw [ran]
  cases outcome with
  | error error => exact ⟨(outcome_compile_of_error houtcome.symm).symm, held⟩
  | ok arguments =>
    refine ⟨?_, held⟩
    rw [outcome_compile_of_ok houtcome.symm, ← held]

end Query

/-! ## What is called, and what comes back -/

namespace Call

def registered (calls : List Call) : List TypeKey := calls.flatMap (·.answer.registered)

def literals (calls : List Call) : List String := calls.filterMap (·.answer.outcome.toOption)

def AllAnswered (calls : List Call) : Prop :=
  ∀ call ∈ calls, ∃ literal, call.answer.outcome = .ok literal

/-- All values were encoded, in order. -/
def Complete (values : List Value) (calls : List Call) : Prop :=
  calls.map Call.value = values ∧ AllAnswered calls

/-- The values were encoded in order up to one that failed, with the given error. -/
def Stopped (values : List Value) (calls : List Call) (error : EncodeError) : Prop :=
  ∃ before last later, calls = before ++ [last] ∧
    values = before.map Call.value ++ last.value :: later ∧
    AllAnswered before ∧ last.answer.outcome = .error error

variable {values more : List Value} {calls calls' : List Call} {error : EncodeError}

theorem Complete.append (first : Complete values calls) (second : Complete more calls') :
    Complete (values ++ more) (calls ++ calls') := by
  refine ⟨?_, ?_⟩
  · rw [List.map_append, first.1, second.1]
  · exact List.forall_mem_append.2 ⟨first.2, second.2⟩

theorem Complete.stopped (first : Complete values calls) (second : Stopped more calls' error) :
    Stopped (values ++ more) (calls ++ calls') error := by
  obtain ⟨before, last, later, rfl, rfl, answered, failed⟩ := second
  refine ⟨calls ++ before, last, later, ?_, ?_, ?_, failed⟩
  · rw [List.append_assoc]
  · rw [List.map_append, first.1, List.append_assoc]
  · exact List.forall_mem_append.2 ⟨first.2, answered⟩

theorem Stopped.append (first : Stopped values calls error) (more : List Value) :
    Stopped (values ++ more) calls error := by
  obtain ⟨before, last, later, same, rfl, answered, failed⟩ := first
  exact ⟨before, last, later ++ more, same, by simp, answered, failed⟩

theorem Stopped.not_allAnswered (stopped : Stopped values calls error) : ¬ AllAnswered calls := by
  obtain ⟨before, last, later, rfl, -, -, failed⟩ := stopped
  intro answered
  obtain ⟨literal, encoded⟩ := answered last (by simp)
  exact absurd (failed.symm.trans encoded) (by simp)

theorem registered_append (calls calls' : List Call) :
    registered (calls ++ calls') = registered calls ++ registered calls' :=
  List.flatMap_append

theorem literals_append (calls calls' : List Call) :
    literals (calls ++ calls') = literals calls ++ literals calls' :=
  List.filterMap_append ..

end Call

namespace Action

variable {σ α β : Type} {values more : List Value}

/-- What came of encoding values in order. The calls were for all of them or for those up to the
    first that failed, and what was registered was registered during these calls. If all succeeded,
    another action that is handed the literals ends in the same. -/
structure Ended (again : Action (List String) α) (values : List Value) (w : World σ)
    (outcome : Except EncodeError α) (w' : World σ) (calls : List Call) : Prop where
  calls_eq : w'.calls = w.calls ++ calls
  registry_eq : w'.registry = w.registry.registerAll (Call.registered calls)
  stopped : ∀ error, outcome = .error error → Call.Stopped values calls error
  complete : ∀ a, outcome = .ok a → Call.Complete values calls
  replayed : ∀ a, outcome = .ok a → ∀ rest registry log, ∃ log',
    again ⟨Call.literals calls ++ rest, registry, log⟩ = (.ok a, ⟨rest, registry, log'⟩)

def Encodes (action : Action σ α) (again : Action (List String) α) (values : List Value) : Prop :=
  ∀ w, ∃ calls, Ended again values w (action w).1 (action w).2 calls

theorem encodes_done (a : α) : Encodes (done a : Action σ α) (done a) [] := by
  intro w
  refine ⟨[], (List.append_nil _).symm, rfl, nofun, fun _ _ => ?_, fun b same => ?_⟩
  · exact ⟨rfl, fun call mem => absurd mem List.not_mem_nil⟩
  · obtain rfl := Except.ok.inj same
    exact fun rest registry log => ⟨log, rfl⟩

theorem encodes_call (e : StatefulEncoder σ) (value : Value) :
    Encodes (e.call value) (StatefulEncoder.replay.call value) [value] := by
  intro w
  let answer := (e.encode w.memory w.registry value).1
  have called : (e.call value w).1 = answer.outcome := rfl
  refine ⟨[⟨value, answer⟩], rfl, ?_, fun error failed => ?_, fun literal encoded => ?_,
    fun literal encoded rest registry log => ⟨log ++ [⟨value, ⟨.ok literal, []⟩⟩], ?_⟩⟩
  · show w.registry.registerAll answer.registered = _
    rw [Call.registered, List.flatMap_singleton]
  · exact ⟨[], ⟨value, answer⟩, [], rfl, rfl, fun call mem => absurd mem List.not_mem_nil, failed⟩
  · refine ⟨rfl, fun call mem => ⟨literal, ?_⟩⟩
    rw [List.mem_singleton.1 mem]
    exact encoded
  · have handed : Call.literals [⟨value, answer⟩] = [literal] := by
      simp [Call.literals, ← called, encoded, Except.toOption]
    rw [handed]
    rfl

theorem Encodes.andThen {first : Action σ α} {again : Action (List String) α}
    {next : α → Action σ β} {nextAgain : α → Action (List String) β}
    (hfirst : first.Encodes again values) (hnext : ∀ a, (next a).Encodes (nextAgain a) more) :
    (first.andThen next).Encodes (again.andThen nextAgain) (values ++ more) := by
  intro w
  obtain ⟨calls, ended⟩ := hfirst w
  rcases ran : first w with ⟨outcome, w'⟩
  rw [ran] at ended
  cases outcome with
  | error error =>
    rw [andThen_of_error ran]
    refine ⟨calls, ended.calls_eq, ended.registry_eq, fun error' same => ?_, nofun, nofun⟩
    obtain rfl := Except.error.inj same
    exact (ended.stopped error rfl).append more
  | ok a =>
    have complete := ended.complete a rfl
    obtain ⟨calls', ended'⟩ := hnext a w'
    rw [andThen_of_ok ran]
    refine ⟨calls ++ calls', ?_, ?_, fun error failed => ?_, fun b done => ?_,
      fun b done rest registry log => ?_⟩
    · rw [ended'.calls_eq, ended.calls_eq, List.append_assoc]
    · rw [ended'.registry_eq, ended.registry_eq, Call.registered_append,
        Registry.registerAll_append]
    · exact complete.stopped (ended'.stopped error failed)
    · exact complete.append (ended'.complete b done)
    · -- the first action takes its literals off the front and leaves those of the second
      obtain ⟨log₁, same⟩ := ended.replayed a rfl (Call.literals calls' ++ rest) registry log
      obtain ⟨log₂, same'⟩ := ended'.replayed b done rest registry log₁
      refine ⟨log₂, ?_⟩
      rw [Call.literals_append, List.append_assoc, andThen_of_ok same, same']

theorem Encodes.join {γ : Type} {first : Action σ α} {again : Action (List String) α}
    {second : Action σ β} {secondAgain : Action (List String) β}
    (hfirst : first.Encodes again values) (hsecond : second.Encodes secondAgain more)
    (join : α → β → γ) :
    Encodes (first.andThen fun a => second.andThen fun b => done (join a b))
      (again.andThen fun a => secondAgain.andThen fun b => done (join a b)) (values ++ more) := by
  have both := hfirst.andThen fun a => hsecond.andThen fun b => encodes_done (join a b)
  rwa [List.append_nil] at both

variable (e : StatefulEncoder σ)

theorem encodes_encodeAll (parameters : List (String × Value)) :
    Encodes (e.encodeAll parameters) (StatefulEncoder.replay.encodeAll parameters)
      (parameters.map (·.2)) := by
  induction parameters with
  | nil => exact encodes_done []
  | cons p rest ih =>
    exact (encodes_call e p.2).join ih fun literal others => (p.1, literal) :: others

def valuesOf (fields : List (FieldId × List (String × Value))) : List Value :=
  fields.flatMap fun field => field.2.map (·.2)

theorem encodes_encodeFields (fields : List (FieldId × List (String × Value))) :
    Encodes (e.encodeFields fields) (StatefulEncoder.replay.encodeFields fields)
      (valuesOf fields) := by
  induction fields with
  | nil => exact encodes_done []
  | cons field rest ih =>
    obtain ⟨id, parameters⟩ := field
    unfold StatefulEncoder.encodeFields
    split
    · rename_i none
      obtain rfl := List.isEmpty_iff.1 none
      exact ih
    · exact (encodes_encodeAll e parameters).join ih
        fun arguments others => (id, arguments) :: others

end Action

/-! ## Registering first -/

namespace Query

variable {S : Schema} {σ : Type} {q : Query S} {e : StatefulEncoder σ} {memory : σ}
  {registry : Registry} {outcome : Except QueryError SelectionSet} {w : World σ}

/-- Compiling encodes the parameters, and then expands the root against the registry of that
    moment. -/
theorem ended_of_compileWith (ran : q.compileWith e (.start memory registry) = (outcome, w)) :
    ∃ encoded : Except EncodeError Arguments,
      Action.Ended (StatefulEncoder.replay.encodeFields q.metadata.parameters)
        (Action.valuesOf q.metadata.parameters) (.start memory registry) encoded w w.calls ∧
      (∀ error, encoded = .error error → outcome = .error (.encode error)) ∧
      (∀ arguments, encoded = .ok arguments → outcome =
        (Expansion.mk w.registry q.metadata arguments q.config : Expansion S).root q.root) := by
  obtain ⟨calls, ended⟩ :=
    Action.encodes_encodeFields e q.metadata.parameters (.start memory registry)
  unfold compileWith at ran
  rcases encoded : e.encodeFields q.metadata.parameters (.start memory registry) with ⟨result, w'⟩
  rw [encoded] at ran ended
  have recorded : w'.calls = calls := ended.calls_eq
  cases result with
  | error error =>
    obtain ⟨rfl, rfl⟩ := Prod.mk.inj ran
    refine ⟨.error error, recorded ▸ ended, fun error' same => ?_, nofun⟩
    rw [Except.error.inj same]
  | ok arguments =>
    obtain ⟨rfl, rfl⟩ := Prod.mk.inj ran
    refine ⟨.ok arguments, recorded ▸ ended, nofun, fun arguments' same => ?_⟩
    rw [Except.ok.inj same]

/-- The calls are for all parameters, or for those up to the first that fails. -/
theorem calls_of_compileWith (ran : q.compileWith e (.start memory registry) = (outcome, w)) :
    Call.Complete (Action.valuesOf q.metadata.parameters) w.calls ∨
      ∃ error, Call.Stopped (Action.valuesOf q.metadata.parameters) w.calls error ∧
        outcome = .error (.encode error) := by
  obtain ⟨encoded, ended, failed, -⟩ := ended_of_compileWith ran
  cases encoded with
  | error error => exact .inr ⟨error, ended.stopped error rfl, failed error rfl⟩
  | ok arguments => exact .inl (ended.complete arguments rfl)

/-- Whether parameters encode or not, what was registered is there at the end. -/
theorem contains_compileWith (ran : q.compileWith e (.start memory registry) = (outcome, w))
    (key : TypeKey) :
    w.registry.contains key =
      (registry.contains key || (Call.registered w.calls).any (key == ·)) := by
  obtain ⟨encoded, ended, -⟩ := ended_of_compileWith ran
  rw [ended.registry_eq, Registry.contains_registerAll]
  rfl

theorem extends_compileWith (ran : q.compileWith e (.start memory registry) = (outcome, w)) :
    w.registry.Extends registry := by
  intro key held
  rw [contains_compileWith ran, held, Bool.true_or]

/-- The outcome is that against every registry with the same types, and with it that of compiling
    once they are registered, with the literals handed out. -/
theorem outcome_compileWith (ran : q.compileWith e (.start memory registry) = (outcome, w))
    (answered : Call.AllAnswered w.calls) {keys : List TypeKey}
    (same : ∀ key, key ∈ keys ↔ key ∈ Call.registered w.calls) :
    ∃ arguments,
      outcome = (Expansion.mk (registry.registerAll keys) q.metadata arguments q.config :
        Expansion S).root q.root ∧
      (q.compileWith .replay (.start (Call.literals w.calls) (registry.registerAll keys))).1 =
        outcome := by
  obtain ⟨encoded, ended, -, expanded⟩ := ended_of_compileWith ran
  cases encoded with
  | error error => exact absurd answered (ended.stopped error rfl).not_allAnswered
  | ok arguments =>
    have holds : ∀ i, (registry.registerAll keys).contains (S.key i) =
        w.registry.contains (S.key i) := by
      intro i
      rw [contains_compileWith ran, Registry.contains_registerAll]
      refine congrArg (registry.contains (S.key i) || ·) (Bool.eq_iff_iff.2 ?_)
      simp only [List.any_eq_true, same]
    have first : outcome = (Expansion.mk (registry.registerAll keys) q.metadata arguments q.config :
        Expansion S).root q.root := by
      rw [expanded arguments rfl]
      exact (Expansion.root_against_of_same ⟨w.registry, q.metadata, arguments, q.config⟩ holds
        q.root).symm
    refine ⟨arguments, first, ?_⟩
    obtain ⟨log, replayed⟩ := ended.replayed arguments rfl [] (registry.registerAll keys) []
    rw [List.append_nil] at replayed
    unfold compileWith World.start
    rw [replayed]
    exact first.symm

/-- **An encoder that registers types acts before the walk, as a whole.** Let a query be compiled
    with an encoder that remembers, looks at the registry of the query and registers types there.

    * If no call fails, its calls are one for each stored parameter, in order. If one fails, they are
      those up to it, and compiling fails with its error.
    * If none fails, the whole selection is expanded against one registry, to which the types that
      were registered in the calls are added, in whatever order; and so the outcome is that of
      registering them first and then compiling with the literals that came back.
    * The types stay: the registry holds them at the end, even if a call failed, and after every
      later compilation on it.

    For an encoder that only answers this is compiling as it is; in a session what it asks for is
    registered on the registry of the query for good. -/
theorem compileWith_registers_first
    (ran : q.compileWith e (.start memory registry) = (outcome, w)) :
    (Call.AllAnswered w.calls →
      w.calls.map Call.value = Action.valuesOf q.metadata.parameters) ∧
    (¬ Call.AllAnswered w.calls →
      ∃ error, Call.Stopped (Action.valuesOf q.metadata.parameters) w.calls error ∧
        outcome = .error (.encode error)) ∧
    (Call.AllAnswered w.calls → ∀ keys, (∀ key, key ∈ keys ↔ key ∈ Call.registered w.calls) →
      ∃ arguments,
        outcome = (Expansion.mk (registry.registerAll keys) q.metadata arguments q.config :
          Expansion S).root q.root ∧
        (q.compileWith .replay (.start (Call.literals w.calls) (registry.registerAll keys))).1 =
          outcome) ∧
    (∀ key, w.registry.contains key =
      (registry.contains key || (Call.registered w.calls).any (key == ·))) ∧
    (∀ {S' : Schema} {τ : Type} (q' : Query S') (e' : StatefulEncoder τ) (memory' : τ),
      (q'.compileWith e' (.start memory' w.registry)).2.registry.Extends w.registry) ∧
    ((q.compileWith q.encoder.stateful (.start () registry)).1 = (q.compile registry).outcome ∧
      (q.compileWith q.encoder.stateful (.start () registry)).2.registry =
        (q.compile registry).registry) ∧
    (∀ (past later : List (Session.Step S)) (n r : Nat),
      (Session.after past).queries[n]? = some ⟨r, q⟩ →
      ((Session.after (later ++ .compile n :: past)).registry r).Extends
        (q.compile ((Session.after past).registry r)).registry) := by
  refine ⟨fun answered => ?_, fun fails => ?_,
    fun answered keys same => outcome_compileWith ran answered same, contains_compileWith ran,
    fun q' e' memory' => extends_compileWith rfl, q.compileWith_stateful registry,
    fun past later n r inUse => ?_⟩
  · rcases calls_of_compileWith ran with complete | ⟨error, stopped, -⟩
    · exact complete.1
    · exact absurd answered stopped.not_allAnswered
  · rcases calls_of_compileWith ran with complete | failed
    · exact absurd complete.2 fails
    · exact failed
  · have compiled : (Session.after (.compile n :: past)).registry r =
        (q.compile ((Session.after past).registry r)).registry := by
      have exist := (Session.inRange_after past).query_lt inUse
      rw [Session.after_cons, Session.step, inUse]
      exact (Session.registry_onRegistry exist _ r).trans (if_pos rfl)
    rw [← compiled]
    exact Session.extends_after (.compile n :: past) later r

end Query

namespace pairs

/-- An encoder that writes literals and at its second call registers items. -/
def secondThoughts : StatefulEncoder Nat :=
  ⟨fun count _ value => (⟨value.literal, if count = 1 then [pairs.key item] else []⟩, count + 1)⟩

/-- A parameter for each member of a pair, the same one. -/
def alike : List (FieldId × Change) :=
  [(pairFoo.id, .addParameter "x" .null), (pairBar.id, .addParameter "x" .null)]

def run : Except QueryError SelectionSet × World Nat :=
  (operated alike).compileWith secondThoughts (.start 0 .builtin)

/-- Items are registered when the item has its literal already, and it is not expanded either. -/
theorem run_registers_first :
    Call.registered run.2.calls = [pairs.key item] ∧ Call.literals run.2.calls = ["null", "null"] ∧
      run.1 = ((operated alike).compileWith .replay
        (.start ["null", "null"] (Registry.builtin.register (pairs.key item)))).1 ∧
      run.1 =
        .ok ⟨[.leaf ⟨"foo", none, [("x", "null")]⟩, .leaf ⟨"bars", none, [("x", "null")]⟩]⟩ := by
  have ran : (operated alike).compileWith secondThoughts (.start 0 .builtin) = (run.1, run.2) := rfl
  have calls : run.2.calls =
      [⟨.null, ⟨.ok "null", []⟩⟩, ⟨.null, ⟨.ok "null", [pairs.key item]⟩⟩] := rfl
  have answered : Call.AllAnswered run.2.calls := by
    intro call mem
    rw [calls] at mem
    rcases List.mem_cons.1 mem with rfl | last
    · exact ⟨_, rfl⟩
    · rw [List.mem_singleton.1 last]
      exact ⟨_, rfl⟩
  obtain ⟨-, -, first, -⟩ := Query.compileWith_registers_first ran
  obtain ⟨arguments, -, replayed⟩ := first answered [pairs.key item] fun key => Iff.rfl
  refine ⟨rfl, rfl, replayed.symm, replayed.symm.trans ?_⟩
  show (Expansion.mk (Registry.builtin.register (pairs.key item)) (operated alike).metadata
    [(pairFoo.id, [("x", "null")]), (pairBar.id, [("x", "null")])] ⟨.preserve⟩ :
      Expansion pairs).root pair = _
  rw [Expansion.root_of_composite (j := pair) _ rfl, Expansion.expand_eq_mapM _ rfl]
  rfl

end pairs

end TypedQuery
