import TypedQuery.Proofs.Outcomes
import TypedQuery.Query.Basic

/-!
# `Carries` — what a query holds for a field after changes

A field is changed by setting its alias or adding a parameter to it, and a parameter whose name the
field already has is refused. `Carries` relates what a query holds for an identity to the changes
that were carried out: the alias is the last one set, and the parameters are those added, in order.
One change is added to what its field carries (`Carries.change`); of a list of changes those up to
the first refusal are (`Carries.changeAll`), and no other field sees them (`Carries.changeAll_of_ne`).
-/

set_option autoImplicit false

namespace TypedQuery

open Outcome

/-- What is done to a selected field. -/
inductive Change where
  | setAlias (aliasName : String)
  | addParameter (name : String) (value : Value)

namespace Change

/-- The alias that a change sets. -/
def aliasName? : Change → Option String
  | setAlias aliasName => some aliasName
  | addParameter .. => none

/-- The parameter that a change adds. -/
def parameter? : Change → Option (String × Value)
  | setAlias _ => none
  | addParameter name value => some (name, value)

/-- The last alias set. -/
def lastAlias (changes : List Change) : Option String := (changes.filterMap aliasName?).getLast?

/-- The parameters added, in order. -/
def parameters (changes : List Change) : List (String × Value) := changes.filterMap parameter?

/-- A change that is refused once others are carried out: a parameter of a name that is taken. -/
def isRefused (before : List Change) : Change → Bool
  | setAlias _ => false
  | addParameter name _ => (Entries.keys (parameters before)).contains name

/-- The changes that are carried out after others, up to the first that is refused. -/
def carriedOut (before : List Change) : List Change → List Change
  | [] => []
  | change :: rest =>
    if change.isRefused before then [] else change :: carriedOut (before ++ [change]) rest

theorem lastAlias_concat (changes : List Change) (change : Change) :
    lastAlias (changes ++ [change]) = change.aliasName?.or (lastAlias changes) := by
  unfold lastAlias
  cases change with
  | setAlias aliasName => simp [aliasName?]
  | addParameter name value => simp [aliasName?]

theorem parameters_concat (changes : List Change) (change : Change) :
    parameters (changes ++ [change]) = parameters changes ++ change.parameter?.toList := by
  unfold parameters
  cases change with
  | setAlias aliasName => simp [parameter?]
  | addParameter name value => simp [parameter?]

end Change

/-! ## What a query carries -/

namespace Query

variable {S : Schema} {q q' : Query S} {id other : FieldId} {before : List Change}

/-- Does one thing to a field. -/
def change (q : Query S) (id : FieldId) : Change → Except QueryError (Query S)
  | .setAlias aliasName => .ok (q.setAlias id aliasName)
  | .addParameter name value => q.addParameter id name value

/-- Does one thing after the other to a field, up to the first that is refused. -/
def changeAll (q : Query S) (id : FieldId) : List Change → Query S
  | [] => q
  | change :: rest =>
    match q.change id change with
    | .ok changed => changed.changeAll id rest
    | .error _ => q

/-- What a query holds for an identity is what some changes leave, once carried out. -/
structure Carries (q : Query S) (id : FieldId) (changes : List Change) : Prop where
  aliasName : q.metadata.aliases.lookup id = Change.lastAlias changes
  parameters : q.metadata.storedParameters id = Change.parameters changes

/-- A change is added to what its field carries, and to no other. -/
theorem Carries.change (carries : q.Carries other before) {c : Change}
    (done : q.change id c = .ok q') :
    q'.Carries other (if other == id then before ++ [c] else before) := by
  cases c with
  | setAlias aliasName =>
    obtain rfl := Except.ok.inj done
    constructor
    · rw [setAlias, Metadata.lookup_setAlias, carries.aliasName]
      split
      · rw [Change.lastAlias_concat]
        rfl
      · rfl
    · show q.metadata.storedParameters other = _
      rw [carries.parameters]
      split
      · rw [Change.parameters_concat]
        exact (List.append_nil _).symm
      · rfl
  | addParameter name value =>
    obtain ⟨metadata, added, rfl⟩ := map_eq_ok_iff.1 done
    obtain ⟨aliases, stored⟩ := Metadata.addParameter_eq_ok added
    constructor
    · show metadata.aliases.lookup other = _
      rw [aliases, carries.aliasName]
      split
      · rw [Change.lastAlias_concat]
        rfl
      · rfl
    · show metadata.storedParameters other = _
      rw [stored]
      split
      · rename_i same
        rw [Change.parameters_concat, ← carries.parameters, q.metadata.storedParameters_congr same]
        rfl
      · exact carries.parameters

/-- A change of a field is refused for what the field carries. -/
theorem Carries.change_fails_iff (carries : q.Carries id before) {c : Change} :
    (∃ error, q.change id c = .error error) ↔ c.isRefused before = true := by
  cases c with
  | setAlias aliasName => simp [Query.change, Change.isRefused]
  | addParameter name value =>
    unfold Query.change addParameter Change.isRefused
    simp only [map_eq_error_iff]
    rw [Metadata.addParameter_fails_iff, carries.parameters]

/-- What is done to a field leaves the others. -/
theorem Carries.changeAll_of_ne (carries : q.Carries other before) (apart : (other == id) = false)
    (changes : List Change) : (q.changeAll id changes).Carries other before := by
  induction changes generalizing q with
  | nil => exact carries
  | cons c rest ih =>
    unfold Query.changeAll
    cases done : q.change id c with
    | error error => exact carries
    | ok changed =>
      have after := carries.change done
      rw [apart] at after
      exact ih after

theorem Carries.congr (carries : q.Carries other before) (same : (other == id) = true) :
    q.Carries id before := by
  refine ⟨?_, ?_⟩
  · rw [← Entries.lookup_congr same, carries.aliasName]
  · rw [← q.metadata.storedParameters_congr same, carries.parameters]

/-- What is done to a field is added to what it carries, as far as it is carried out. -/
theorem Carries.changeAll (carries : q.Carries other before) (same : (other == id) = true)
    (changes : List Change) :
    (q.changeAll id changes).Carries other (before ++ Change.carriedOut before changes) := by
  induction changes generalizing q before with
  | nil =>
    rw [Change.carriedOut, List.append_nil]
    exact carries
  | cons c rest ih =>
    -- whether a change is refused shows at the field it is for, which is an equal identity
    have refusal := (carries.congr same).change_fails_iff (c := c)
    unfold Query.changeAll Change.carriedOut
    cases done : q.change id c with
    | error error =>
      rw [if_pos (refusal.1 ⟨error, done⟩), List.append_nil]
      exact carries
    | ok changed =>
      have accepted : ¬ c.isRefused before = true := by
        intro refused
        obtain ⟨error, failed⟩ := refusal.2 refused
        exact absurd (done.symm.trans failed) (by simp)
      have after := carries.change done
      rw [if_pos same] at after
      rw [if_neg accepted, List.append_cons]
      exact ih after

/-! ## What changes leave alone -/

theorem eq_of_change {c : Change} (done : q.change id c = .ok q') :
    q' = { q with metadata := q'.metadata } := by
  cases c with
  | setAlias aliasName =>
    obtain rfl := Except.ok.inj done
    rfl
  | addParameter name value =>
    obtain ⟨metadata, -, rfl⟩ := map_eq_ok_iff.1 done
    rfl

theorem changeAll_eq (q : Query S) (id : FieldId) (changes : List Change) :
    q.changeAll id changes = { q with metadata := (q.changeAll id changes).metadata } := by
  induction changes generalizing q with
  | nil => rfl
  | cons c rest ih =>
    unfold Query.changeAll
    cases done : q.change id c with
    | error error => rfl
    | ok changed =>
      show changed.changeAll id rest = { q with metadata := (changed.changeAll id rest).metadata }
      rw [ih changed, eq_of_change done]

end Query

end TypedQuery
