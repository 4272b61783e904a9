import TypedQuery.Proofs.Query.Visiting

/-!
# `afterLog` — the store of metadata is a view of its operations

Aliases are set and parameters added in any order on any fields. The store keeps a table of aliases
and a table of lists of parameters, and it is changed in place: `perform` first makes the list of a
field, if there is none, and only then looks whether the name is taken, so a refusal could leave a
trace. It does not: what is performed is what `operate` gives, and **a refused operation leaves the
very store it found** (`perform_eq`).

What the store holds for a field after any log is read off the operations on that field alone: the
last alias set, and of the parameters added the first of each name (`stateOf_afterLog`). Operations
on different fields, and an alias and a parameter of one field, may therefore change places
(`agrees_of_independent`).
-/

set_option autoImplicit false

namespace TypedQuery

/-! ## Putting what is there -/

namespace Entries

variable {κ α : Type} [BEq κ]

theorem put_of_lookup [EquivBEq κ] {key : κ} {value : α} {entries : List (κ × α)}
    (found : entries.lookup key = some value) : put key value entries = entries := by
  induction entries with
  | nil => exact absurd found nofun
  | cons e rest ih =>
    obtain ⟨k, v⟩ := e
    rw [List.lookup_cons] at found
    rw [put, BEq.comm]
    cases same : key == k with
    | true =>
      rw [same] at found
      rw [Option.some.inj found]
      rfl
    | false =>
      rw [same] at found
      exact congrArg ((k, v) :: ·) (ih found)

theorem put_put (key : κ) [EquivBEq κ] (first second : α) (entries : List (κ × α)) :
    put key second (put key first entries) = put key second entries := by
  induction entries with
  | nil => simp [put]
  | cons e rest ih =>
    obtain ⟨k, v⟩ := e
    cases same : k == key <;> simp [put, same, ih]

theorem lookup_filter_ne [LawfulBEq κ] {key other : κ} (apart : key ≠ other)
    (entries : List (κ × α)) : (entries.filter (·.1 != other)).lookup key = entries.lookup key := by
  induction entries with
  | nil => rfl
  | cons e rest ih =>
    obtain ⟨k, v⟩ := e
    by_cases out : k = other
    · have missed : (key == k) = false := beq_false_of_ne fun same => apart (same.trans out)
      rw [List.filter_cons_of_neg (by simp [out]), ih, List.lookup_cons, missed]
    · rw [List.filter_cons_of_pos (by simp [out]), List.lookup_cons, List.lookup_cons, ih]

end Entries

/-! ## The first of each name -/

namespace Change

/-- The first parameter of each name, in order. -/
def firstOfEach : List (String × Value) → List (String × Value)
  | [] => []
  | (name, value) :: rest => (name, value) :: (firstOfEach rest).filter (·.1 != name)

theorem mem_keys_firstOfEach {name : String} {added : List (String × Value)} :
    name ∈ Entries.keys (firstOfEach added) ↔ name ∈ Entries.keys added := by
  unfold Entries.keys
  induction added with
  | nil => rfl
  | cons p rest ih =>
    obtain ⟨first, value⟩ := p
    by_cases here : name = first
    · simp [firstOfEach, here]
    · rw [List.map_cons, List.mem_cons, ← ih]
      simp [firstOfEach, here]

theorem distinct_firstOfEach (added : List (String × Value)) :
    Entries.Distinct (firstOfEach added) := by
  unfold Entries.Distinct Entries.keys
  induction added with
  | nil => exact .nil
  | cons p rest ih =>
    refine List.pairwise_cons.2 ⟨fun name mem => ?_, ?_⟩
    · obtain ⟨q, kept, rfl⟩ := List.mem_map.1 mem
      have apart := (List.mem_filter.1 kept).2
      exact beq_false_of_ne fun same => (bne_iff_ne.1 apart) same.symm
    · exact List.Pairwise.sublist (List.filter_sublist.map _) ih

theorem lookup_firstOfEach (name : String) (added : List (String × Value)) :
    (firstOfEach added).lookup name = added.lookup name := by
  induction added with
  | nil => rfl
  | cons p rest ih =>
    obtain ⟨first, value⟩ := p
    rw [firstOfEach, List.lookup_cons, List.lookup_cons]
    cases here : name == first with
    | true => rfl
    | false =>
      rw [Entries.lookup_filter_ne (by simpa using here)]
      exact ih

theorem firstOfEach_concat (added : List (String × Value)) (name : String) (value : Value) :
    firstOfEach (added ++ [(name, value)]) =
      if (Entries.keys added).contains name then firstOfEach added
      else firstOfEach added ++ [(name, value)] := by
  induction added with
  | nil => rfl
  | cons p rest ih =>
    obtain ⟨first, value'⟩ := p
    have contains : (Entries.keys ((first, value') :: rest)).contains name =
        (name == first || (Entries.keys rest).contains name) := List.contains_cons ..
    rw [List.cons_append, firstOfEach, ih, contains]
    cases taken : (Entries.keys rest).contains name with
    | true => simp [firstOfEach]
    | false =>
      cases here : name == first with
      | true => simp [firstOfEach, beq_iff_eq.1 here]
      | false => simp [firstOfEach, show name ≠ first by simpa using here]

/-- **What changes make of a field**: the last alias set, and the first parameter of each name. -/
theorem foldl_carryOut (changes : List Change) :
    changes.foldl carryOut ⟨none, []⟩ = ⟨lastAlias changes, firstOfEach (parameters changes)⟩ := by
  induction changes using List.reverseRecOn with
  | nil => rfl
  | append_singleton changes change ih =>
    rw [List.foldl_append, ih, lastAlias_concat, parameters_concat]
    cases change with
    | setAlias aliasName =>
      rw [parameter?, Option.toList_none, List.append_nil]
      rfl
    | addParameter name value =>
      show carryOut _ (.addParameter name value) = _
      rw [parameter?, Option.toList_some, firstOfEach_concat, carryOut]
      have same : (Entries.keys (firstOfEach (parameters changes))).contains name =
          (Entries.keys (parameters changes)).contains name := by
        rw [Bool.eq_iff_iff, List.contains_iff_mem, List.contains_iff_mem, mem_keys_firstOfEach]
      dsimp only
      rw [same]
      split <;> rfl

end Change

/-! ## Operations in place -/

namespace Metadata

variable {m m' : Metadata} {id : FieldId} {name : String} {value : Value}

theorem eq_of_parts (aliases : m.aliases = m'.aliases) (parameters : m.parameters = m'.parameters) :
    m = m' := by
  cases m
  cases m'
  cases aliases
  cases parameters
  rfl

/-- The store with a list of parameters for the field, an empty one if there was none. -/
def openField (m : Metadata) (id : FieldId) : Metadata :=
  { m with
    parameters := Entries.put id (m.storedParameters id) m.parameters
    distinct_fields := m.distinct_fields.put id _
    distinct_names := by
      intro field mem
      rcases Entries.mem_put mem with kept | added
      · exact m.distinct_names field kept
      · rw [added]
        exact m.distinct_storedParameters id }

/-- Does an operation in place, and says why it is refused if it is. A parameter's field gets its
    list before its name is looked for. -/
def perform (m : Metadata) : FieldId × Change → Metadata × Option QueryError
  | (id, .setAlias aliasName) => (m.setAlias id aliasName, none)
  | (id, .addParameter name value) =>
    match (m.openField id).addParameter id name value with
    | .ok changed => (changed, none)
    | .error refusal => (m.openField id, some refusal)

def afterLog (log : List (FieldId × Change)) : Metadata :=
  log.foldl (fun m operation => (m.perform operation).1) .empty

theorem storedParameters_openField (m : Metadata) (id : FieldId) :
    (m.openField id).storedParameters id = m.storedParameters id := by
  show ((Entries.put id (m.storedParameters id) m.parameters).lookup id).getD [] = _
  rw [Entries.lookup_put, BEq.rfl]
  rfl

/-- A field that has a parameter has its list. -/
theorem openField_of_taken (taken : (Entries.keys (m.storedParameters id)).contains name = true) :
    m.openField id = m := by
  refine eq_of_parts rfl (Entries.put_of_lookup ?_)
  unfold storedParameters at taken ⊢
  cases stored : m.parameters.lookup id with
  | none =>
    rw [stored] at taken
    exact absurd taken Bool.false_ne_true
  | some parameters => rfl

def refusal? (m : Metadata) : FieldId × Change → Option QueryError
  | (_, .setAlias _) => none
  | (id, .addParameter name _) =>
    if (Entries.keys (m.storedParameters id)).contains name then some (.duplicateParameter id name)
    else none

/-- **Performing is operating.** The list that is made for a field is made only where a parameter is
    added to it, so a refusal leaves the store that it found. -/
theorem perform_eq (m : Metadata) (operation : FieldId × Change) :
    m.perform operation = (m.operate operation, m.refusal? operation) := by
  obtain ⟨id, change⟩ := operation
  cases change with
  | setAlias aliasName => rfl
  | addParameter name value =>
    unfold perform operate refusal?
    dsimp only
    cases taken : (Entries.keys (m.storedParameters id)).contains name with
    | true =>
      rw [openField_of_taken taken, addParameter, dif_pos taken]
      rfl
    | false =>
      have free := Bool.eq_false_iff.1 taken
      have freeOpened : ¬ (Entries.keys ((m.openField id).storedParameters id)).contains name =
          true := by
        rwa [storedParameters_openField]
      rw [addParameter, addParameter, dif_neg free, dif_neg freeOpened]
      refine Prod.ext (eq_of_parts rfl ?_) rfl
      show Entries.put id ((m.openField id).storedParameters id ++ [(name, value)])
        (Entries.put id _ m.parameters) = _
      rw [storedParameters_openField]
      exact Entries.put_put ..

theorem afterLog_eq (log : List (FieldId × Change)) :
    afterLog log = log.foldl operate .empty := by
  unfold afterLog
  simp only [perform_eq]

/-! ## What the store holds -/

/-- The parameters that a log adds, or tries to add, to a field. -/
def addedTo (id : FieldId) (log : List (FieldId × Change)) : List (String × Value) :=
  Change.parameters (changesOf id log)

theorem stateOf_afterLog (log : List (FieldId × Change)) (id : FieldId) :
    (afterLog log).stateOf id =
      ⟨Change.lastAlias (changesOf id log), Change.firstOfEach (addedTo id log)⟩ := by
  rw [afterLog_eq, stateOf_operations]
  exact Change.foldl_carryOut _

theorem parametersOf_eq (m : Metadata) (id : FieldId) :
    m.parametersOf id =
      if m.storedParameters id = [] then none else some (m.storedParameters id) := by
  unfold parametersOf storedParameters
  cases m.parameters.lookup id with
  | none => rfl
  | some parameters => cases parameters <;> simp

/-- A store is empty if it holds nothing for any field. -/
theorem isEmpty_iff : m.isEmpty = true ↔ ∀ id, m.stateOf id = ⟨none, []⟩ := by
  unfold isEmpty
  rw [Bool.and_eq_true, List.isEmpty_iff, List.all_eq_true]
  constructor
  · rintro ⟨aliases, parameters⟩ id
    have unaliased : m.aliases.lookup id = none := by
      rw [aliases]
      rfl
    have bare : m.storedParameters id = [] := by
      unfold storedParameters
      cases stored : m.parameters.lookup id with
      | none => rfl
      | some list =>
        obtain ⟨k, -, listed⟩ := Entries.mem_of_lookup_eq_some stored
        exact List.isEmpty_iff.1 (parameters (k, list) listed)
    rw [stateOf, unaliased, bare]
  · intro empty
    constructor
    · -- the first alias of a table is found
      cases aliases : m.aliases with
      | nil => rfl
      | cons first rest =>
        have unaliased : m.aliases.lookup first.1 = none := congrArg FieldState.aliasName (empty _)
        rw [aliases, List.lookup_cons, BEq.rfl] at unaliased
        exact absurd unaliased (by simp)
    · rintro ⟨id, list⟩ listed
      have bare : m.storedParameters id = [] := congrArg FieldState.parameters (empty id)
      rw [storedParameters, m.distinct_fields.lookup_eq_some listed] at bare
      exact List.isEmpty_iff.2 bare

/-- No operation leaves the store empty, a refused one neither. -/
theorem isEmpty_operate (m : Metadata) (operation : FieldId × Change) :
    (m.operate operation).isEmpty = false := by
  rw [Bool.eq_false_iff, Ne, isEmpty_iff]
  intro empty
  have state := empty operation.1
  rw [stateOf_operate, BEq.rfl, if_pos rfl] at state
  obtain ⟨id, change⟩ := operation
  cases change with
  | setAlias aliasName =>
    exact absurd (congrArg FieldState.aliasName state) (by simp [Change.carryOut])
  | addParameter name value =>
    have bare : (if (Entries.keys (m.stateOf id).parameters).contains name then m.stateOf id
        else { m.stateOf id with
          parameters := (m.stateOf id).parameters ++ [(name, value)] }).parameters = [] :=
      congrArg FieldState.parameters state
    split at bare
    · rename_i taken
      rw [bare] at taken
      exact absurd taken Bool.false_ne_true
    · exact absurd bare (by simp)

theorem isEmpty_afterLog_iff {log : List (FieldId × Change)} :
    (afterLog log).isEmpty = true ↔ log = [] := by
  rw [afterLog_eq]
  cases log using List.reverseRecOn with
  | nil => exact ⟨fun _ => rfl, fun _ => rfl⟩
  | append_singleton log operation _ =>
    rw [List.foldl_append]
    show (operate _ operation).isEmpty = true ↔ _
    rw [isEmpty_operate]
    simp

/-! ## Operations that change places -/

/-- Operations on different fields, or one that sets an alias and one that adds a parameter. -/
def Independent (a b : FieldId × Change) : Prop :=
  (a.1 == b.1) = false ∨ a.2.aliasName?.isSome ≠ b.2.aliasName?.isSome

theorem Independent.symm {a b : FieldId × Change} (independent : Independent a b) :
    Independent b a :=
  independent.imp (fun apart => by rwa [BEq.comm]) Ne.symm

theorem Change.carryOut_comm {c d : Change} (kinds : c.aliasName?.isSome ≠ d.aliasName?.isSome)
    (state : FieldState) : d.carryOut (c.carryOut state) = c.carryOut (d.carryOut state) := by
  cases c with
  | setAlias aliasName =>
    cases d with
    | setAlias other => exact absurd rfl kinds
    | addParameter name value =>
      unfold Change.carryOut
      dsimp only
      split <;> rfl
  | addParameter name value =>
    cases d with
    | setAlias aliasName =>
      unfold Change.carryOut
      dsimp only
      split <;> rfl
    | addParameter name' value' => exact absurd rfl kinds

/-- **Independent operations may be done in either order.** -/
theorem agrees_of_independent (m : Metadata) {a b : FieldId × Change}
    (independent : Independent a b) :
    ((m.operate a).operate b).Agrees ((m.operate b).operate a) := by
  intro id
  simp only [stateOf_operate]
  cases atA : id == a.1 with
  | false => rfl
  | true =>
    cases atB : id == b.1 with
    | false => rfl
    | true =>
      -- both are on the field, so one is an alias and one a parameter
      have here : (a.1 == b.1) = true := by
        rw [← BEq.congr_left atA]
        exact atB
      rcases independent with apart | kinds
      · exact absurd (here.symm.trans apart) (by simp)
      · exact (Change.carryOut_comm kinds _).symm

theorem Agrees.refusal? (agrees : m.Agrees m') (operation : FieldId × Change) :
    m'.refusal? operation = m.refusal? operation := by
  obtain ⟨id, change⟩ := operation
  cases change with
  | setAlias aliasName => rfl
  | addParameter name value =>
    unfold Metadata.refusal?
    dsimp only
    rw [agrees.storedParameters]

theorem refusal?_operate (m : Metadata) {a b : FieldId × Change} (independent : Independent a b) :
    (m.operate b).refusal? a = m.refusal? a := by
  obtain ⟨id, change⟩ := a
  cases change with
  | setAlias aliasName => rfl
  | addParameter name value =>
    have stored : (m.operate b).storedParameters id = m.storedParameters id := by
      show ((m.operate b).stateOf id).parameters = _
      rw [stateOf_operate]
      rcases independent with apart | kinds
      · rw [if_neg (Bool.eq_false_iff.1 apart)]
        rfl
      · obtain ⟨other, change⟩ := b
        cases change with
        | setAlias aliasName => split <;> rfl
        | addParameter name' value' => exact absurd rfl kinds
    unfold Metadata.refusal?
    dsimp only
    rw [stored]

theorem Agrees.parametersOf (agrees : m.Agrees m') (id : FieldId) :
    m'.parametersOf id = m.parametersOf id := by
  rw [parametersOf_eq, parametersOf_eq, agrees.storedParameters]

theorem Agrees.isEmpty (agrees : m.Agrees m') : m'.isEmpty = m.isEmpty := by
  rw [Bool.eq_iff_iff, isEmpty_iff, isEmpty_iff]
  exact forall_congr' fun id => by rw [agrees id]

theorem Agrees.operations (agrees : m.Agrees m') (operations : List (FieldId × Change)) :
    (operations.foldl operate m).Agrees (operations.foldl operate m') := by
  intro id
  rw [stateOf_operations, stateOf_operations, agrees id]

/-! ## What can be observed -/

/-- Where all parameters encode, compiling does not see the order of the fields, not even if the
    encoder registers types: it registers the same ones. -/
theorem Agrees.outcome_compile {S : Schema} {q : Query S} {registry : Registry}
    (agrees : q.metadata.Agrees m') (encodes : q.metadata.Encodes q.encoder) :
    (({ q with metadata := m' } : Query S).compile registry).outcome =
      (q.compile registry).outcome := by
  obtain ⟨arguments, done, -⟩ := encodeParameters_ok encodes
  obtain ⟨arguments', done', -⟩ := encodeParameters_ok (agrees.encodes encodes)
  rw [Query.outcome_compile_of_ok done,
    Query.outcome_compile_of_ok (q := { q with metadata := m' }) done']
  refine Expansion.root_of_same (Schema.classify_congr fun i => ?_) fun m => ?_
  · rw [Query.registry_compile, Query.registry_compile, Registry.contains_registerAll,
      Registry.contains_registerAll]
    refine congrArg (registry.contains (S.key i) || ·) (Bool.eq_iff_iff.2 ?_)
    simp only [List.any_eq_true, mem_registered_iff done,
      mem_registered_iff done', agrees.storedParameters]
  · unfold Expansion.fieldHead
    dsimp only
    rw [agrees.aliasOf, agrees.arguments done done']

/-- No observation tells one store from another: neither its aliases, its lists of parameters and
    whether it is empty, nor what it refuses, nor what a query with it compiles to. Which of several
    parameters that do not encode is reported is left open, as it is to the order of the fields. -/
structure SameObservations (m m' : Metadata) : Prop where
  aliasOf : ∀ id, m'.aliasOf id = m.aliasOf id
  parametersOf : ∀ id, m'.parametersOf id = m.parametersOf id
  isEmpty : m'.isEmpty = m.isEmpty
  refused : ∀ operation, (m'.perform operation).2 = (m.perform operation).2
  compile : ∀ {S : Schema} (q : Query S) (registry : Registry),
    (({ q with metadata := m' } : Query S).compile registry).outcome =
        (({ q with metadata := m } : Query S).compile registry).outcome ∨
      ∃ error error',
        (({ q with metadata := m } : Query S).compile registry).outcome = .error (.encode error) ∧
        (({ q with metadata := m' } : Query S).compile registry).outcome = .error (.encode error')

theorem Agrees.sameObservations (agrees : m.Agrees m') : m.SameObservations m' where
  aliasOf := agrees.aliasOf
  parametersOf := agrees.parametersOf
  isEmpty := agrees.isEmpty
  refused operation := by
    rw [perform_eq, perform_eq]
    exact agrees.refusal? operation
  compile q registry := by
    -- compiling starts with all parameters, and whether they encode the two decide alike
    cases encoded : (m.encodeParameters q.encoder).outcome with
    | ok arguments =>
      exact .inl (Agrees.outcome_compile (q := { q with metadata := m }) agrees
        (encodes_iff.2 ⟨arguments, encoded⟩))
    | error error =>
      refine .inr ?_
      cases encoded' : (m'.encodeParameters q.encoder).outcome with
      | ok arguments =>
        obtain ⟨arguments, encodes⟩ :=
          encodes_iff.1 (agrees.symm.encodes (encodes_iff.2 ⟨arguments, encoded'⟩))
        exact absurd (encoded.symm.trans encodes) (by simp)
      | error error' =>
        exact ⟨error, error',
          Query.outcome_compile_of_error (q := { q with metadata := m }) encoded,
          Query.outcome_compile_of_error (q := { q with metadata := m' }) encoded'⟩

theorem aliasOf_afterLog_iff {log : List (FieldId × Change)} {aliasName : String} :
    (afterLog log).aliasOf id = some aliasName ↔
      Change.lastAlias (changesOf id log) = some aliasName ∧
        ∃ c ∈ aliasName.toList, Text.isBlank c = false := by
  have stored : (afterLog log).aliases.lookup id = Change.lastAlias (changesOf id log) :=
    congrArg FieldState.aliasName (stateOf_afterLog log id)
  unfold aliasOf
  rw [stored, Option.filter_eq_some_iff, Text.isBlankText, List.not_all_eq_any_not,
    List.any_eq_true]
  simp only [Bool.not_eq_eq_eq_not, Bool.not_true]

theorem storedParameters_afterLog (log : List (FieldId × Change)) (id : FieldId) :
    (afterLog log).storedParameters id = Change.firstOfEach (addedTo id log) :=
  congrArg FieldState.parameters (stateOf_afterLog log id)

theorem parametersOf_afterLog (log : List (FieldId × Change)) (id : FieldId) :
    (afterLog log).parametersOf id =
      if addedTo id log = [] then none else some (Change.firstOfEach (addedTo id log)) := by
  rw [parametersOf_eq, storedParameters_afterLog]
  cases addedTo id log <;> rfl

theorem addParameter_eq_error_iff {error : QueryError} :
    m.addParameter id name value = .error error ↔
      (Entries.keys (m.storedParameters id)).contains name = true ∧
        error = .duplicateParameter id name := by
  unfold addParameter
  dsimp only
  split
  · rename_i taken
    simp [List.contains_iff_mem.1 taken, eq_comm]
  · rename_i free
    exact ⟨fun refused => absurd refused (by simp), fun taken => absurd taken.1 free⟩

theorem taken_afterLog_iff {log : List (FieldId × Change)} :
    (Entries.keys ((afterLog log).storedParameters id)).contains name = true ↔
      name ∈ Entries.keys (addedTo id log) := by
  rw [storedParameters_afterLog, List.contains_iff_mem, Change.mem_keys_firstOfEach]

theorem perform_afterLog (log : List (FieldId × Change)) (id : FieldId) (name : String)
    (value : Value) :
    (((afterLog log).perform (id, .addParameter name value)).2 =
      if name ∈ Entries.keys (addedTo id log) then some (.duplicateParameter id name) else none) ∧
    (name ∈ Entries.keys (addedTo id log) →
      ((afterLog log).perform (id, .addParameter name value)).1 = afterLog log) := by
  rw [perform_eq]
  constructor
  · exact if_congr taken_afterLog_iff rfl rfl
  · intro added
    show (afterLog log).operate (id, .addParameter name value) = afterLog log
    unfold operate addParameter
    dsimp only
    rw [dif_pos (taken_afterLog_iff.2 added)]

/-- What is done after independent operations does not tell in which order they were. -/
theorem afterLog_swap {a b : FieldId × Change} (independent : Independent a b)
    (log later : List (FieldId × Change)) :
    (afterLog (log ++ a :: b :: later)).Agrees (afterLog (log ++ b :: a :: later)) := by
  simp only [afterLog_eq, List.foldl_append, List.foldl_cons]
  exact (agrees_of_independent _ independent).operations later

theorem refused_swap {a b : FieldId × Change} (independent : Independent a b) (m : Metadata) :
    (((m.perform b).1.perform a).2 = (m.perform a).2) ∧
      (((m.perform a).1.perform b).2 = (m.perform b).2) := by
  simp only [perform_eq]
  exact ⟨m.refusal?_operate independent, m.refusal?_operate independent.symm⟩

/-- **The store refines its log.** Operations done in place on an empty store make the store that
    `operate` makes, and after them:

    * the alias of a field is the last one set on it, if that has a character that is not white
      space;
    * its parameters are those added to it, the first of each name in order of addition, each name
      with its first value, and none are listed if none was added;
    * a parameter is refused exactly if one of its name was added to the field before, with that
      field and name, and the store is then the one that it was, so nothing observes the refusal;
    * the store is empty exactly if nothing was done;
    * operations on different fields, and an alias and a parameter of one field, may change places:
      the same are refused, every field has the same, and later observations tell the orders apart
      in one thing at most: which of several parameters that do not encode a compilation reports,
      for it stops at the first field with one and the fields are in no order. -/
theorem afterLog_refines (log : List (FieldId × Change)) :
    afterLog log = log.foldl operate .empty ∧
    (∀ id aliasName, (afterLog log).aliasOf id = some aliasName ↔
      Change.lastAlias (changesOf id log) = some aliasName ∧
        ∃ c ∈ aliasName.toList, Text.isBlank c = false) ∧
    (∀ id, (afterLog log).parametersOf id =
        (if addedTo id log = [] then none else some (Change.firstOfEach (addedTo id log))) ∧
      Entries.Distinct (Change.firstOfEach (addedTo id log)) ∧
      ∀ name, (Change.firstOfEach (addedTo id log)).lookup name = (addedTo id log).lookup name) ∧
    (∀ id name value,
      ((afterLog log).perform (id, .addParameter name value)).2 =
        (if name ∈ Entries.keys (addedTo id log) then some (.duplicateParameter id name)
          else none) ∧
      (name ∈ Entries.keys (addedTo id log) →
        ((afterLog log).perform (id, .addParameter name value)).1 = afterLog log) ∧
      ∀ error, (afterLog log).addParameter id name value = .error error ↔
        name ∈ Entries.keys (addedTo id log) ∧ error = .duplicateParameter id name) ∧
    ((afterLog log).isEmpty = true ↔ log = []) ∧
    (∀ a b, Independent a b →
      (((afterLog log).perform b).1.perform a).2 = ((afterLog log).perform a).2 ∧
      (((afterLog log).perform a).1.perform b).2 = ((afterLog log).perform b).2 ∧
      ∀ later, (afterLog (log ++ a :: b :: later)).Agrees (afterLog (log ++ b :: a :: later)) ∧
        (afterLog (log ++ a :: b :: later)).SameObservations
          (afterLog (log ++ b :: a :: later))) := by
  refine ⟨afterLog_eq log, fun id aliasName => aliasOf_afterLog_iff, fun id => ?_,
    fun id name value => ?_, isEmpty_afterLog_iff, fun a b independent => ?_⟩
  · exact ⟨parametersOf_afterLog log id, Change.distinct_firstOfEach _,
      fun name => Change.lookup_firstOfEach name _⟩
  · obtain ⟨refused, unchanged⟩ := perform_afterLog log id name value
    refine ⟨refused, unchanged, fun error => ?_⟩
    rw [addParameter_eq_error_iff, taken_afterLog_iff]
  · obtain ⟨first, second⟩ := refused_swap independent (afterLog log)
    refine ⟨first, second, fun later => ?_⟩
    have agrees := afterLog_swap independent log later
    exact ⟨agrees, agrees.sameObservations⟩

end Metadata

end TypedQuery
