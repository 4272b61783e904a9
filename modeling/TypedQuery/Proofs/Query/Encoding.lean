import Mathlib.Data.List.Forall2
import TypedQuery.Query.Basic

/-!
# `Metadata.Encodes` — all parameters have literals, or compiling fails with the encoder's error

Compiling starts with the parameters of every field. It gets past them exactly when each of them
encodes, and then the arguments it holds for a field are the literals of that field's parameters,
name by name and in order (`encodeParameters_ok`). One parameter that does not encode is enough for
the whole to fail (`encodeParameters_fails_iff`), whatever field it belongs to.
-/

set_option autoImplicit false

namespace TypedQuery

/-! ## Two encodings, one after the other -/

namespace Encoding

variable {α β γ : Type} {first : Encoding α} {second : Encoding β} {join : α → β → γ}

theorem outcome_join_eq_ok_iff {c : γ} :
    (first.andThen fun a => second.andThen fun b => .done (join a b)).outcome = .ok c ↔
      ∃ a b, first.outcome = .ok a ∧ second.outcome = .ok b ∧ join a b = c := by
  unfold andThen done
  cases first.outcome with
  | error error => simp
  | ok a => cases second.outcome <;> simp

/-- The two fail together exactly when one of them does; the error is that of the first that does. -/
theorem join_fails_iff :
    (∃ error, (first.andThen fun a =>
      second.andThen fun b => .done (join a b)).outcome = .error error) ↔
      (∃ error, first.outcome = .error error) ∨ ∃ error, second.outcome = .error error := by
  unfold andThen done
  cases first.outcome with
  | error error => simp
  | ok a => cases second.outcome <;> simp

/-- The two fail as the first of them that does. -/
theorem outcome_join_eq_error_iff {error : EncodeError} :
    (first.andThen fun a =>
      second.andThen fun b => .done (join a b)).outcome = .error error ↔
      first.outcome = .error error ∨
        (∃ a, first.outcome = .ok a) ∧ second.outcome = .error error := by
  unfold andThen done
  cases first.outcome with
  | error error' => simp
  | ok a => cases second.outcome <;> simp

theorem registered_join_eq_nil (hfirst : first.registered = []) (hsecond : second.registered = []) :
    (first.andThen fun a => second.andThen fun b => .done (join a b)).registered = [] := by
  unfold andThen done
  cases first.outcome with
  | error error => exact hfirst
  | ok a => cases second.outcome <;> simp [hfirst, hsecond]

/-- Two that both succeed register what the first asks for, and then what the second does. -/
theorem registered_join_of_ok {c : γ}
    (done : (first.andThen fun a => second.andThen fun b => .done (join a b)).outcome = .ok c) :
    (first.andThen fun a => second.andThen fun b => .done (join a b)).registered =
      first.registered ++ second.registered := by
  obtain ⟨a, b, hfirst, hsecond, -⟩ := outcome_join_eq_ok_iff.1 done
  simp [andThen, Encoding.done, hfirst, hsecond]

end Encoding

/-! ## The parameters of one field -/

namespace Encoder

variable (e : Encoder)

/-- The arguments are the literals of the parameters, name by name and in order. -/
def Literals (parameters : List (String × Value)) (arguments : List (String × String)) : Prop :=
  List.Forall₂ (fun p a => a.1 = p.1 ∧ (e.encode p.2).outcome = .ok a.2) parameters arguments

theorem encodeAll_eq_ok_iff {parameters : List (String × Value)}
    {arguments : List (String × String)} :
    (e.encodeAll parameters).outcome = .ok arguments ↔ e.Literals parameters arguments := by
  induction parameters generalizing arguments with
  | nil =>
    unfold Literals
    rw [List.forall₂_nil_left_iff]
    exact ⟨fun h => (Except.ok.inj h).symm, fun h => h ▸ rfl⟩
  | cons p rest ih =>
    obtain ⟨name, value⟩ := p
    unfold Literals encodeAll
    rw [Encoding.outcome_join_eq_ok_iff, List.forall₂_cons_left_iff]
    constructor
    · rintro ⟨literal, others, encoded, hothers, same⟩
      exact ⟨(name, literal), others, ⟨rfl, encoded⟩, ih.1 hothers, same.symm⟩
    · rintro ⟨⟨name', literal⟩, others, ⟨rfl, encoded⟩, hothers, rfl⟩
      exact ⟨literal, others, encoded, ih.2 hothers, rfl⟩

/-- Encoding a list of parameters fails exactly when one of them does. -/
theorem encodeAll_fails_iff {parameters : List (String × Value)} :
    (∃ error, (e.encodeAll parameters).outcome = .error error) ↔
      ∃ p ∈ parameters, ∃ error, (e.encode p.2).outcome = .error error := by
  induction parameters with
  | nil => simp [encodeAll, Encoding.done]
  | cons p rest ih =>
    obtain ⟨name, value⟩ := p
    rw [List.exists_mem_cons_iff, ← ih, encodeAll]
    exact Encoding.join_fails_iff

variable {e} in
theorem registered_encodeAll (pure : e.IsPure) (parameters : List (String × Value)) :
    (e.encodeAll parameters).registered = [] := by
  induction parameters with
  | nil => rfl
  | cons p rest ih =>
    exact Encoding.registered_join_eq_nil (pure p.2) ih

theorem registered_encodeAll_of_ok {parameters : List (String × Value)}
    {arguments : List (String × String)}
    (done : (e.encodeAll parameters).outcome = .ok arguments) :
    (e.encodeAll parameters).registered =
      parameters.flatMap fun p => (e.encode p.2).registered := by
  induction parameters generalizing arguments with
  | nil => rfl
  | cons p rest ih =>
    obtain ⟨-, others, -, hothers, -⟩ := Encoding.outcome_join_eq_ok_iff.1 done
    rw [List.flatMap_cons, ← ih hothers]
    exact Encoding.registered_join_of_ok done

end Encoder

/-! ## All parameters -/

namespace Metadata

variable (m : Metadata) (encoder : Encoder)

/-- Every parameter of every field has a literal. -/
def Encodes : Prop :=
  ∀ id, ∀ p ∈ m.storedParameters id, ∃ literal, (encoder.encode p.2).outcome = .ok literal

variable {m} in
/-- The parameters of a field are those of its entry. -/
theorem exists_mem_storedParameters_iff {P : String × Value → Prop} :
    (∃ id, ∃ p ∈ m.storedParameters id, P p) ↔ ∃ field ∈ m.parameters, ∃ p ∈ field.2, P p := by
  constructor
  · rintro ⟨id, p, mem, hp⟩
    unfold storedParameters at mem
    cases stored : m.parameters.lookup id with
    | none => simp [stored] at mem
    | some parameters =>
      obtain ⟨k, -, listed⟩ := Entries.mem_of_lookup_eq_some stored
      exact ⟨(k, parameters), listed, p, by simpa [stored] using mem, hp⟩
  · rintro ⟨⟨id, parameters⟩, listed, p, mem, hp⟩
    refine ⟨id, p, ?_, hp⟩
    rwa [storedParameters, m.distinct_fields.lookup_eq_some listed]

variable {encoder}

theorem encodeFields_fails_iff {fields : List (FieldId × List (String × Value))} :
    (∃ error, (encodeFields encoder fields).outcome = .error error) ↔
      ∃ field ∈ fields, ∃ p ∈ field.2, ∃ error, (encoder.encode p.2).outcome = .error error := by
  induction fields with
  | nil => simp [encodeFields, Encoding.done]
  | cons field rest ih =>
    obtain ⟨id, parameters⟩ := field
    rw [List.exists_mem_cons_iff, encodeFields, ← ih, ← encoder.encodeAll_fails_iff]
    split
    · rename_i none
      obtain rfl := List.isEmpty_iff.1 none
      simp [Encoder.encodeAll, Encoding.done]
    · exact Encoding.join_fails_iff

/-- What is held for a field after encoding are the literals of its parameters. Distinct fields
    matter here: an empty list of parameters leaves no entry behind, and a second list under the
    same field would be found in its place. -/
theorem literals_of_encodeFields {fields : List (FieldId × List (String × Value))}
    (distinct : Entries.Distinct fields) {arguments : Arguments}
    (done : (encodeFields encoder fields).outcome = .ok arguments) (id : FieldId) :
    encoder.Literals ((fields.lookup id).getD []) ((arguments.lookup id).getD []) := by
  induction fields generalizing arguments with
  | nil =>
    obtain rfl := Except.ok.inj done
    exact List.Forall₂.nil
  | cons field rest ih =>
    obtain ⟨k, parameters⟩ := field
    obtain ⟨apart, tail⟩ := List.pairwise_cons.1 distinct
    unfold encodeFields at done
    rw [List.lookup_cons]
    split at done
    · rename_i none
      obtain rfl := List.isEmpty_iff.1 none
      have below := ih tail done
      cases here : id == k with
      | false => exact below
      | true =>
        have absent : rest.lookup id = .none := by
          by_contra present
          obtain ⟨found, hfound⟩ := Option.ne_none_iff_exists'.1 present
          obtain ⟨k', same, listed⟩ := Entries.mem_of_lookup_eq_some hfound
          have differ := apart k' (List.mem_map_of_mem listed)
          rw [← BEq.congr_left here, same] at differ
          exact absurd differ (by simp)
        rw [absent] at below
        exact below
    · obtain ⟨literals, others, encoded, hothers, rfl⟩ := Encoding.outcome_join_eq_ok_iff.1 done
      rw [List.lookup_cons]
      cases here : id == k with
      | false => exact ih tail hothers
      | true => exact encoder.encodeAll_eq_ok_iff.1 encoded

theorem registered_encodeFields (pure : encoder.IsPure)
    (fields : List (FieldId × List (String × Value))) :
    (encodeFields encoder fields).registered = [] := by
  induction fields with
  | nil => rfl
  | cons field rest ih =>
    unfold encodeFields
    split
    · exact ih
    · exact Encoding.registered_join_eq_nil (Encoder.registered_encodeAll pure _) ih

theorem registered_encodeFields_of_ok {fields : List (FieldId × List (String × Value))}
    {arguments : Arguments} (done : (encodeFields encoder fields).outcome = .ok arguments) :
    (encodeFields encoder fields).registered =
      fields.flatMap fun field => field.2.flatMap fun p => (encoder.encode p.2).registered := by
  induction fields generalizing arguments with
  | nil => rfl
  | cons field rest ih =>
    obtain ⟨id, parameters⟩ := field
    rw [List.flatMap_cons]
    unfold encodeFields at done ⊢
    split at done
    · rename_i none
      obtain rfl := List.isEmpty_iff.1 none
      exact ih done
    · rename_i some
      rw [if_neg some, Encoding.registered_join_of_ok done]
      obtain ⟨literals, others, encoded, hothers, -⟩ := Encoding.outcome_join_eq_ok_iff.1 done
      rw [encoder.registered_encodeAll_of_ok encoded, ih hothers]

variable {m}

/-- Where all parameters encode, what is registered is what some parameter asks for. -/
theorem mem_registered_iff {arguments : Arguments}
    (done : (m.encodeParameters encoder).outcome = .ok arguments) {key : TypeKey} :
    key ∈ (m.encodeParameters encoder).registered ↔
      ∃ id, ∃ p ∈ m.storedParameters id, key ∈ (encoder.encode p.2).registered := by
  rw [exists_mem_storedParameters_iff, encodeParameters, registered_encodeFields_of_ok done]
  simp only [List.mem_flatMap]

/-- **Encoding fails exactly when some stored parameter does**, whatever its field. -/
theorem encodeParameters_fails_iff :
    (∃ error, (m.encodeParameters encoder).outcome = .error error) ↔
      ∃ id, ∃ p ∈ m.storedParameters id, ∃ error, (encoder.encode p.2).outcome = .error error := by
  rw [exists_mem_storedParameters_iff]
  exact encodeFields_fails_iff

/-- **Where all parameters encode, each field has the literals of its parameters.** -/
theorem encodeParameters_ok (encodes : m.Encodes encoder) :
    ∃ arguments, (m.encodeParameters encoder).outcome = .ok arguments ∧
      ∀ id, encoder.Literals (m.storedParameters id) ((arguments.lookup id).getD []) := by
  cases done : (m.encodeParameters encoder).outcome with
  | ok arguments => exact ⟨arguments, rfl, literals_of_encodeFields m.distinct_fields done⟩
  | error error =>
    obtain ⟨id, p, mem, error, failed⟩ := encodeParameters_fails_iff.1 ⟨error, done⟩
    obtain ⟨literal, encoded⟩ := encodes id p mem
    exact absurd (failed.symm.trans encoded) (by simp)

/-- All parameters encode exactly when encoding them gets through. -/
theorem encodes_iff :
    m.Encodes encoder ↔ ∃ arguments, (m.encodeParameters encoder).outcome = .ok arguments := by
  constructor
  · intro encodes
    obtain ⟨arguments, done, -⟩ := encodeParameters_ok encodes
    exact ⟨arguments, done⟩
  · rintro ⟨arguments, done⟩ id p mem
    cases encoded : (encoder.encode p.2).outcome with
    | ok literal => exact ⟨literal, rfl⟩
    | error error =>
      obtain ⟨error, failed⟩ := encodeParameters_fails_iff.2 ⟨id, p, mem, error, encoded⟩
      exact absurd (done.symm.trans failed) (by simp)

end Metadata

/-! ## Compiling -/

namespace Query

variable {S : Schema} {q : Query S} {registry : Registry}

/-- Compiling registers what was asked for while encoding, and nothing else. -/
theorem registry_compile (q : Query S) (registry : Registry) :
    (q.compile registry).registry =
      registry.registerAll (q.metadata.encodeParameters q.encoder).registered := by
  unfold compile
  dsimp only
  cases (q.metadata.encodeParameters q.encoder).outcome <;> rfl

/-- An encoder that asks for nothing leaves the registry as it is. -/
theorem registry_compile_of_isPure (pure : q.encoder.IsPure) :
    (q.compile registry).registry = registry := by
  rw [registry_compile, Metadata.encodeParameters, Metadata.registered_encodeFields pure]
  rfl

/-- Once the parameters are encoded, the outcome is that of expanding the root. -/
theorem outcome_compile_of_ok {arguments : Arguments}
    (encoded : (q.metadata.encodeParameters q.encoder).outcome = .ok arguments) :
    (q.compile registry).outcome =
      (Expansion.mk (q.compile registry).registry q.metadata arguments q.config :
        Expansion S).root q.root := by
  rw [registry_compile]
  unfold compile
  dsimp only
  rw [encoded]

/-- An encoding that fails is the outcome. -/
theorem outcome_compile_of_error {error : EncodeError}
    (failed : (q.metadata.encodeParameters q.encoder).outcome = .error error) :
    (q.compile registry).outcome = .error (.encode error) := by
  unfold compile
  dsimp only
  rw [failed]

/-- A query that compiles is expanded, and what its expansion holds for a field are the literals of
    the field's parameters. -/
theorem exists_expansion_of_ok {set : SelectionSet} (done : (q.compile registry).outcome = .ok set) :
    ∃ e : Expansion S, e.registry = (q.compile registry).registry ∧ e.metadata = q.metadata ∧
      (∀ id, q.encoder.Literals (q.metadata.storedParameters id)
        ((e.arguments.lookup id).getD [])) ∧ e.root q.root = .ok set := by
  cases encoded : (q.metadata.encodeParameters q.encoder).outcome with
  | error error =>
    rw [outcome_compile_of_error encoded] at done
    exact absurd done (by simp)
  | ok arguments =>
    rw [outcome_compile_of_ok encoded] at done
    refine ⟨_, rfl, rfl, fun id => ?_, done⟩
    exact Metadata.literals_of_encodeFields q.metadata.distinct_fields encoded id

end Query

end TypedQuery
