import Mathlib.Data.List.Perm.Basic
import TypedQuery.Proofs.Query.Compositional
import TypedQuery.Proofs.Query.Encoding
import TypedQuery.Proofs.Query.Histories

/-!
# Visiting — what compiling owes to the order of the fields

The parameters of a query are kept field by field, and nothing a user says about one field orders it
among the others. `Agrees` relates metadata that hold the same for every field. Operations that are
the same field by field leave metadata that agree (`agrees_of_changesOf`), and so do the same
entries in another order (`agrees_reorder`).

Encoding visits the fields one after the other, up to the first that fails. Whether it gets through,
and with which arguments, agreeing metadata decide alike (`Agrees.encodes`, `Agrees.arguments`);
which error it stops at is that of **whichever failing field comes first**
(`exists_agrees_error_iff`). So the outcome of compiling is independent of the order exactly where
no two fields fail with different errors.
-/

set_option autoImplicit false

namespace TypedQuery

/-! ## The same for every field -/

/-- What is held for one field: the alias, and the parameters in order. -/
structure FieldState where
  aliasName : Option String
  parameters : List (String × Value)

/-- What a change makes of a field; a parameter of a name that is taken is refused. -/
def Change.carryOut (state : FieldState) : Change → FieldState
  | .setAlias aliasName => { state with aliasName := some aliasName }
  | .addParameter name value =>
    if (Entries.keys state.parameters).contains name then state
    else { state with parameters := state.parameters ++ [(name, value)] }

namespace Metadata

def stateOf (m : Metadata) (id : FieldId) : FieldState :=
  ⟨m.aliases.lookup id, m.storedParameters id⟩

/-- The same is held for every field. -/
def Agrees (m m' : Metadata) : Prop := ∀ id, m'.stateOf id = m.stateOf id

variable {m m' : Metadata}

theorem Agrees.aliasOf (agrees : m.Agrees m') (id : FieldId) : m'.aliasOf id = m.aliasOf id := by
  have same : m'.aliases.lookup id = m.aliases.lookup id :=
    congrArg FieldState.aliasName (agrees id)
  unfold Metadata.aliasOf
  rw [same]

theorem Agrees.storedParameters (agrees : m.Agrees m') (id : FieldId) :
    m'.storedParameters id = m.storedParameters id :=
  congrArg FieldState.parameters (agrees id)

theorem Agrees.symm (agrees : m.Agrees m') : m'.Agrees m := fun id => (agrees id).symm

/-- The changes that operations make to one field, in order. -/
def changesOf (id : FieldId) (operations : List (FieldId × Change)) : List Change :=
  operations.filterMap fun operation => if id == operation.1 then some operation.2 else none

theorem stateOf_operate (m : Metadata) (operation : FieldId × Change) (id : FieldId) :
    (m.operate operation).stateOf id =
      if id == operation.1 then operation.2.carryOut (m.stateOf id) else m.stateOf id := by
  obtain ⟨other, change⟩ := operation
  cases change with
  | setAlias aliasName =>
    unfold operate stateOf Change.carryOut
    dsimp only
    rw [lookup_setAlias]
    split <;> rfl
  | addParameter name value =>
    unfold operate
    dsimp only
    cases added : m.addParameter other name value with
    | ok changed =>
      obtain ⟨aliases, stored⟩ := addParameter_eq_ok added
      have free : ¬ (Entries.keys (m.storedParameters other)).contains name = true := by
        intro taken
        obtain ⟨error, refused⟩ := addParameter_fails_iff.2 taken
        exact absurd (added.symm.trans refused) (by simp)
      unfold stateOf Change.carryOut
      rw [aliases, stored]
      split
      · rename_i same
        dsimp only
        rw [m.storedParameters_congr same, if_neg free]
      · rfl
    | error error =>
      have taken := addParameter_fails_iff.1 ⟨error, added⟩
      dsimp only
      split
      · rename_i same
        unfold stateOf Change.carryOut
        dsimp only
        rw [m.storedParameters_congr same, if_pos taken]
      · rfl

/-- **What operations leave for a field is what those on the field make of it.** -/
theorem stateOf_operations (m : Metadata) (operations : List (FieldId × Change)) (id : FieldId) :
    (operations.foldl operate m).stateOf id =
      (changesOf id operations).foldl Change.carryOut (m.stateOf id) := by
  induction operations generalizing m with
  | nil => rfl
  | cons operation rest ih =>
    rw [List.foldl_cons, ih, stateOf_operate]
    unfold changesOf
    rw [List.filterMap_cons]
    cases id == operation.1 <;> rfl

/-- Operations that are the same on each field may be interleaved in any way. -/
theorem agrees_of_changesOf (m : Metadata) {operations operations' : List (FieldId × Change)}
    (same : ∀ id, changesOf id operations' = changesOf id operations) :
    (operations.foldl operate m).Agrees (operations'.foldl operate m) := by
  intro id
  rw [stateOf_operations, stateOf_operations, same]

/-- The entries of the fields in another order. -/
def reorder (m : Metadata) (fields : List (FieldId × List (String × Value)))
    (perm : fields.Perm m.parameters) : Metadata where
  aliases := m.aliases
  parameters := fields
  distinct_aliases := m.distinct_aliases
  distinct_fields := by
    have symm : ∀ {a b : FieldId}, (a == b) = false → (b == a) = false := fun h => by rwa [BEq.comm]
    exact ((perm.map Prod.fst).pairwise_iff symm).2 m.distinct_fields
  distinct_names := fun field mem => m.distinct_names field (perm.mem_iff.1 mem)

theorem agrees_reorder (m : Metadata) {fields : List (FieldId × List (String × Value))}
    (perm : fields.Perm m.parameters) : m.Agrees (m.reorder fields perm) := by
  intro id
  have found : fields.lookup id = m.parameters.lookup id := by
    cases stored : m.parameters.lookup id with
    | some parameters =>
      obtain ⟨k, same, listed⟩ := Entries.mem_of_lookup_eq_some stored
      rw [Entries.lookup_congr same]
      exact (m.reorder fields perm).distinct_fields.lookup_eq_some (perm.mem_iff.2 listed)
    | none =>
      by_contra present
      obtain ⟨parameters, found⟩ := Option.ne_none_iff_exists'.1 present
      obtain ⟨k, same, listed⟩ := Entries.mem_of_lookup_eq_some found
      have stored' := m.distinct_fields.lookup_eq_some (perm.mem_iff.1 listed)
      rw [← Entries.lookup_congr same, stored] at stored'
      exact absurd stored' (by simp)
  unfold stateOf storedParameters
  rw [show (m.reorder fields perm).parameters = fields from rfl, found]
  rfl

/-! ## The field that fails first -/

variable {encoder : Encoder} {error : EncodeError}

/-- The parameters of a field do not encode, for a reason. -/
def FieldFails (m : Metadata) (encoder : Encoder) (id : FieldId) (error : EncodeError) : Prop :=
  (encoder.encodeAll (m.storedParameters id)).outcome = .error error

/-- Encoding fails as a field does before which all others encode. -/
theorem encodeFields_eq_error_iff {fields : List (FieldId × List (String × Value))} :
    (encodeFields encoder fields).outcome = .error error ↔
      ∃ before field after, fields = before ++ field :: after ∧
        (∀ f ∈ before, ∃ arguments, (encoder.encodeAll f.2).outcome = .ok arguments) ∧
        (encoder.encodeAll field.2).outcome = .error error := by
  induction fields with
  | nil => simp [encodeFields, Encoding.done]
  | cons first rest ih =>
    -- a field without parameters encodes like any other: to no arguments
    have step : (encodeFields encoder (first :: rest)).outcome = .error error ↔
        (encoder.encodeAll first.2).outcome = .error error ∨
          (∃ arguments, (encoder.encodeAll first.2).outcome = .ok arguments) ∧
            (encodeFields encoder rest).outcome = .error error := by
      obtain ⟨id, parameters⟩ := first
      rw [encodeFields]
      split
      · rename_i none
        obtain rfl := List.isEmpty_iff.1 none
        simp [Encoder.encodeAll, Encoding.done]
      · exact Encoding.outcome_join_eq_error_iff
    rw [step]
    constructor
    · rintro (fails | ⟨encodes, fails⟩)
      · exact ⟨[], first, rest, rfl, fun f mem => absurd mem List.not_mem_nil, fails⟩
      · obtain ⟨before, field, after, rfl, encoded, fails⟩ := ih.1 fails
        exact ⟨first :: before, field, after, rfl, List.forall_mem_cons.2 ⟨encodes, encoded⟩, fails⟩
    · rintro ⟨before, field, after, split, encoded, fails⟩
      cases before with
      | nil =>
        obtain ⟨rfl, rfl⟩ := List.cons_eq_cons.1 split
        exact Or.inl fails
      | cons f before =>
        obtain ⟨rfl, rfl⟩ := List.cons_eq_cons.1 split
        obtain ⟨encodes, encoded⟩ := List.forall_mem_cons.1 encoded
        exact Or.inr ⟨encodes, ih.2 ⟨before, field, after, rfl, encoded, fails⟩⟩

theorem exists_fieldFails_of_error (failed : (m.encodeParameters encoder).outcome = .error error) :
    ∃ id, m.FieldFails encoder id error := by
  obtain ⟨before, ⟨id, parameters⟩, after, split, -, fails⟩ := encodeFields_eq_error_iff.1 failed
  have listed : (id, parameters) ∈ m.parameters := by simp [split]
  refine ⟨id, ?_⟩
  unfold FieldFails storedParameters
  rw [m.distinct_fields.lookup_eq_some listed]
  exact fails

/-- **Any field that fails fails first in some order.** -/
theorem exists_agrees_error_iff :
    (∃ m', m.Agrees m' ∧ (m'.encodeParameters encoder).outcome = .error error) ↔
      ∃ id, m.FieldFails encoder id error := by
  constructor
  · rintro ⟨m', agrees, failed⟩
    obtain ⟨id, fails⟩ := exists_fieldFails_of_error failed
    unfold FieldFails at fails
    rw [agrees.storedParameters] at fails
    exact ⟨id, fails⟩
  · rintro ⟨id, fails⟩
    unfold FieldFails storedParameters at fails
    cases stored : m.parameters.lookup id with
    | none =>
      rw [stored] at fails
      exact absurd fails (by simp [Encoder.encodeAll, Encoding.done])
    | some parameters =>
      rw [stored] at fails
      obtain ⟨k, -, listed⟩ := Entries.mem_of_lookup_eq_some stored
      obtain ⟨before, after, split⟩ := List.append_of_mem listed
      have perm : ((k, parameters) :: (before ++ after)).Perm m.parameters := by
        rw [split]
        exact List.perm_middle.symm
      refine ⟨m.reorder _ perm, m.agrees_reorder perm, ?_⟩
      refine encodeFields_eq_error_iff.2 ⟨[], (k, parameters), before ++ after, rfl, ?_, fails⟩
      exact fun f mem => absurd mem List.not_mem_nil

/-! ## The same arguments -/

theorem Agrees.encodes (agrees : m.Agrees m') (encodes : m.Encodes encoder) :
    m'.Encodes encoder := by
  intro id p mem
  rw [agrees.storedParameters] at mem
  exact encodes id p mem

/-- **Metadata that agree encode to the same arguments**, field by field. -/
theorem Agrees.arguments (agrees : m.Agrees m') {arguments arguments' : Arguments}
    (done : (m.encodeParameters encoder).outcome = .ok arguments)
    (done' : (m'.encodeParameters encoder).outcome = .ok arguments') (id : FieldId) :
    (arguments'.lookup id).getD [] = (arguments.lookup id).getD [] := by
  have literals :=
    encoder.encodeAll_eq_ok_iff.2 (literals_of_encodeFields m.distinct_fields done id)
  have literals' :=
    encoder.encodeAll_eq_ok_iff.2 (literals_of_encodeFields m'.distinct_fields done' id)
  have same : (m'.parameters.lookup id).getD [] = (m.parameters.lookup id).getD [] :=
    agrees.storedParameters id
  rw [same, literals] at literals'
  exact (Except.ok.inj literals').symm

end Metadata

/-! ## Compiling -/

namespace Query

variable {S : Schema} {q : Query S} {registry : Registry} {m' : Metadata}

/-- Where all parameters encode, compiling does not see the order of the fields. -/
theorem outcome_compile_of_agrees (pure : q.encoder.IsPure) (agrees : q.metadata.Agrees m')
    (encodes : q.metadata.Encodes q.encoder) :
    (({ q with metadata := m' } : Query S).compile registry).outcome =
      (q.compile registry).outcome := by
  obtain ⟨arguments, done, -⟩ := Metadata.encodeParameters_ok encodes
  obtain ⟨arguments', done', -⟩ := Metadata.encodeParameters_ok (agrees.encodes encodes)
  rw [outcome_compile_of_ok done, registry_compile_of_isPure pure,
    outcome_compile_of_ok (q := { q with metadata := m' }) done',
    registry_compile_of_isPure (q := { q with metadata := m' }) pure]
  refine Expansion.root_of_same (fun _ => rfl) ?_
  intro m
  unfold Expansion.fieldHead
  dsimp only
  rw [agrees.aliasOf, agrees.arguments done done']

theorem outcome_compile_eq_encode_iff {error : EncodeError} :
    (q.compile registry).outcome = .error (.encode error) ↔
      (q.metadata.encodeParameters q.encoder).outcome = .error error := by
  cases encoded : (q.metadata.encodeParameters q.encoder).outcome with
  | error error' =>
    rw [outcome_compile_of_error encoded]
    simp
  | ok arguments =>
    rw [outcome_compile_of_ok encoded]
    constructor
    · intro failed
      -- an expansion fails for a cycle or for wrappers without end
      rcases Expansion.root_eq_error _ failed with ⟨_, _, same⟩ | ⟨⟨_, same⟩, -⟩
      · exact absurd same (by simp)
      · exact absurd same (by simp)
    · intro failed
      exact absurd failed (by simp)

/-- **What the order of the fields decides.** Among metadata that hold the same for every field: if
    all parameters encode, then with all of them, to the same arguments, and compiling gives the
    same. If not, then with none of them, and the errors that compiling gives are those of the
    fields that fail, each in some order. So compiling gives the same for all of them exactly where
    no two fields fail with different errors. -/
theorem outcome_compile_order (q : Query S) (registry : Registry) (pure : q.encoder.IsPure) :
    (q.metadata.Encodes q.encoder → ∀ m', q.metadata.Agrees m' →
      (∃ arguments arguments', (q.metadata.encodeParameters q.encoder).outcome = .ok arguments ∧
        (m'.encodeParameters q.encoder).outcome = .ok arguments' ∧
        ∀ id, (arguments'.lookup id).getD [] = (arguments.lookup id).getD []) ∧
      (({ q with metadata := m' } : Query S).compile registry).outcome =
        (q.compile registry).outcome) ∧
    (¬ q.metadata.Encodes q.encoder → ∀ m', q.metadata.Agrees m' →
      ∃ error, (({ q with metadata := m' } : Query S).compile registry).outcome =
        .error (.encode error)) ∧
    (∀ error, (∃ m', q.metadata.Agrees m' ∧
        (({ q with metadata := m' } : Query S).compile registry).outcome = .error (.encode error)) ↔
      ∃ id, q.metadata.FieldFails q.encoder id error) ∧
    ((∀ m', q.metadata.Agrees m' →
        (({ q with metadata := m' } : Query S).compile registry).outcome =
          (q.compile registry).outcome) ↔
      ∀ id id' error error', q.metadata.FieldFails q.encoder id error →
        q.metadata.FieldFails q.encoder id' error' → error = error') := by
  have errors : ∀ error, (∃ m', q.metadata.Agrees m' ∧
      (({ q with metadata := m' } : Query S).compile registry).outcome = .error (.encode error)) ↔
        ∃ id, q.metadata.FieldFails q.encoder id error := by
    intro error
    rw [← Metadata.exists_agrees_error_iff]
    exact exists_congr fun m' => and_congr_right fun _ => outcome_compile_eq_encode_iff
  have fails : ¬ q.metadata.Encodes q.encoder → ∀ m', q.metadata.Agrees m' →
      ∃ error, (({ q with metadata := m' } : Query S).compile registry).outcome =
        .error (.encode error) := by
    intro none m' agrees
    cases encoded : (m'.encodeParameters q.encoder).outcome with
    | ok arguments => exact absurd (agrees.symm.encodes (Metadata.encodes_iff.2 ⟨_, encoded⟩)) none
    | error error =>
      exact ⟨error, outcome_compile_of_error (q := { q with metadata := m' }) encoded⟩
  refine ⟨?_, fails, errors, ?_⟩
  · intro encodes m' agrees
    refine ⟨?_, outcome_compile_of_agrees pure agrees encodes⟩
    obtain ⟨arguments, done, -⟩ := Metadata.encodeParameters_ok encodes
    obtain ⟨arguments', done', -⟩ := Metadata.encodeParameters_ok (agrees.encodes encodes)
    exact ⟨arguments, arguments', done, done', agrees.arguments done done'⟩
  constructor
  · intro same id id' error error' hid hid'
    obtain ⟨m₁, agrees₁, failed₁⟩ := (errors error).2 ⟨id, hid⟩
    obtain ⟨m₂, agrees₂, failed₂⟩ := (errors error').2 ⟨id', hid'⟩
    rw [same m₁ agrees₁] at failed₁
    rw [same m₂ agrees₂, failed₁] at failed₂
    exact QueryError.encode.inj (Except.error.inj failed₂)
  · intro unique m' agrees
    by_cases encodes : q.metadata.Encodes q.encoder
    · exact outcome_compile_of_agrees pure agrees encodes
    obtain ⟨error, failed⟩ := fails encodes q.metadata fun _ => rfl
    obtain ⟨error', failed'⟩ := fails encodes m' agrees
    obtain ⟨id, hid⟩ := (errors error).1 ⟨q.metadata, fun _ => rfl, failed⟩
    obtain ⟨id', hid'⟩ := (errors error').1 ⟨m', agrees, failed'⟩
    rw [failed', ← unique id id' error error' hid hid']
    exact failed.symm

end Query

namespace pairs

/-- A float that is no number for the item, and no name of an enum for the list of items. -/
def faults : List (FieldId × Change) :=
  [(pairFoo.id, .addParameter "x" (.float ⟨0x7ff8000000000000⟩)),
    (pairBar.id, .addParameter "x" (.enum "not valid"))]

def operated (operations : List (FieldId × Change)) : Query pairs :=
  ⟨pair, .default, ⟨.preserve⟩, operations.foldl Metadata.operate .empty⟩

/-- Which of the two faults is reported is left to the order of the fields. -/
theorem faults_decide :
    Encoder.default.IsPure ∧
      (operated faults).metadata.FieldFails .default pairFoo.id .nonFiniteFloat ∧
      (operated faults).metadata.FieldFails .default pairBar.id (.invalidEnumName "not valid") ∧
      ¬ ∀ m', (operated faults).metadata.Agrees m' →
        (({ operated faults with metadata := m' } : Query pairs).compile .builtin).outcome =
          ((operated faults).compile .builtin).outcome := by
  have foo : (operated faults).metadata.FieldFails .default pairFoo.id .nonFiniteFloat := rfl
  have bar : (operated faults).metadata.FieldFails .default pairBar.id
      (.invalidEnumName "not valid") := rfl
  refine ⟨Encoder.isPure_default, foo, bar, ?_⟩
  intro independent
  have order := (operated faults).outcome_compile_order .builtin Encoder.isPure_default
  have same := order.2.2.2.1 independent _ _ _ _ foo bar
  exact absurd same (by decide)

/-- The same operations on each field, those on the one or on the other field first, leave metadata
    that agree, and compiling fails with different errors. -/
theorem faults_ordered :
    (∀ id, Metadata.changesOf id faults.reverse = Metadata.changesOf id faults) ∧
      (operated faults).metadata.Agrees (operated faults.reverse).metadata ∧
      ((operated faults).compile .builtin).outcome = .error (.encode .nonFiniteFloat) ∧
      ((operated faults.reverse).compile .builtin).outcome =
        .error (.encode (.invalidEnumName "not valid")) := by
  have same : ∀ id, Metadata.changesOf id faults.reverse = Metadata.changesOf id faults := by
    intro id
    show [(pairBar.id, _), (pairFoo.id, _)].filterMap _ =
      [(pairFoo.id, _), (pairBar.id, _)].filterMap _
    simp only [List.filterMap_cons, List.filterMap_nil]
    cases foo : id == pairFoo.id with
    | false => cases id == pairBar.id <;> rfl
    | true =>
      -- an identity is that of one of the two members at most
      have apart : (id == pairBar.id) = false := by
        rw [BEq.congr_left foo]
        rfl
      rw [apart]
      rfl
  exact ⟨same, Metadata.agrees_of_changesOf .empty same, rfl, rfl⟩

end pairs

end TypedQuery
