import Mathlib.Data.List.Basic
import TypedQuery.Shape.Classification

/-!
# `Route` — the ways through a family of types, member by member

A route starts at a composite type and takes one member after another; at each stop the member's
type has been unwrapped to the next composite. A route comes back when the composite it ends at has
the key of one that it has passed, the composite it started from included. `Reenters` says so with a
stack of keys that are open before the route starts, and `reenters_cons` moves the first key of a
route onto that stack, which is what an expansion does with it.

A member anywhere below a type is named by its places: its position among the members of the
composite around it, and before that the positions of the members on the way (`memberAt?`).
-/

set_option autoImplicit false

namespace TypedQuery.Schema

variable {S : Schema} {registry : Registry}

/-- A stop of a route. -/
structure Stop (S : Schema) where
  /-- The position of the member in its composite. -/
  place : Nat
  member : Member S.size
  /-- The composite that the member's type unwraps to. -/
  type : S.Ref

/-- The stops follow one another from a composite type. -/
inductive Route (S : Schema) (registry : Registry) : S.Ref → List S.Stop → Prop where
  | nil (i : S.Ref) : Route S registry i []
  | cons {i : S.Ref} {stop : S.Stop} {rest : List S.Stop}
      (declared : (S.descriptor i).members[stop.place]? = some stop.member)
      (leads : S.classify registry stop.member.type = some (.composite stop.type))
      (onward : Route S registry stop.type rest) : Route S registry i (stop :: rest)

/-- The keys of the composites on a route, from the one it starts at to the one it ends at. -/
def keysAlong (S : Schema) (i : S.Ref) (route : List S.Stop) : List TypeKey :=
  S.key i :: route.map fun stop => S.key stop.type

/-- The composite that a route ends at. -/
def endOf (i : S.Ref) : List S.Stop → S.Ref
  | [] => i
  | stop :: rest => endOf stop.type rest

/-- The declared names of the members on a route. -/
def namesAlong (route : List S.Stop) : List String := route.map (·.member.name)

/-- The places of the members on a route. -/
def placesAlong (route : List S.Stop) : List Nat := route.map (·.place)

/-- The first places are met no later than the second, by a walk that goes to the members of a
    composite in declaration order and into each before the next. -/
def NoLater : List Nat → List Nat → Prop
  | [], _ => True
  | _ :: _, [] => False
  | k :: rest, k' :: rest' => k < k' ∨ k = k' ∧ NoLater rest rest'

/-- The last of the keys is open, or one of those before it. -/
def Reenters (stack keys : List TypeKey) : Prop :=
  ∃ before last, keys = before ++ [last] ∧ (stack ++ before).any (· == last) = true

theorem reenters_singleton {stack : List TypeKey} {key : TypeKey} :
    Reenters stack [key] ↔ stack.any (· == key) = true := by
  constructor
  · rintro ⟨before, last, split, found⟩
    obtain ⟨rfl, same⟩ := List.append_eq_singleton_iff.1 split.symm |>.resolve_right (by simp)
    obtain rfl := List.singleton_inj.1 same
    simpa using found
  · exact fun found => ⟨[], key, rfl, by simpa using found⟩

/-- The first of several keys may as well be open before. -/
theorem reenters_cons {stack keys : List TypeKey} {first second : TypeKey} :
    Reenters stack (first :: second :: keys) ↔ Reenters (first :: stack) (second :: keys) := by
  have moved : ∀ (before : List TypeKey) (last : TypeKey),
      (stack ++ first :: before).any (· == last) = (first :: stack ++ before).any (· == last) := by
    intro before last
    simp only [List.any_append, List.any_cons, List.cons_append]
    exact Bool.or_left_comm ..
  constructor
  · rintro ⟨before, last, split, found⟩
    cases before with
    | nil => simp at split
    | cons key before =>
      obtain ⟨rfl, tail⟩ := List.cons_eq_cons.1 split
      exact ⟨before, last, tail, moved before last ▸ found⟩
  · rintro ⟨before, last, split, found⟩
    exact ⟨first :: before, last, congrArg (first :: ·) split, (moved before last).trans found⟩

/-- The last of the keys along a route is that of the composite it ends at. -/
theorem keysAlong_eq_concat (i : S.Ref) (route : List S.Stop) :
    ∃ before, S.keysAlong i route = before ++ [S.key (endOf i route)] := by
  induction route generalizing i with
  | nil => exact ⟨[], rfl⟩
  | cons stop rest ih =>
    obtain ⟨before, split⟩ := ih stop.type
    exact ⟨S.key i :: before, congrArg (S.key i :: ·) split⟩

/-- A route that ends at the key it started from comes back. -/
theorem reenters_of_key_eq {stack : List TypeKey} {i : S.Ref} {route : List S.Stop}
    (moved : route ≠ []) (same : (S.key i == S.key (endOf i route)) = true) :
    Reenters stack (S.keysAlong i route) := by
  cases route with
  | nil => exact absurd rfl moved
  | cons stop rest =>
    obtain ⟨before, split⟩ := keysAlong_eq_concat stop.type rest
    refine ⟨S.key i :: before, _, congrArg (S.key i :: ·) split, ?_⟩
    exact List.any_eq_true.2 ⟨S.key i, by simp, same⟩

/-- A route that comes back to what is open or to a composite it has passed, and before which in
    the order of the walk there is no other. -/
structure FirstReentry (S : Schema) (registry : Registry) (stack : List TypeKey) (i : S.Ref)
    (route : List S.Stop) : Prop where
  isRoute : S.Route registry i route
  reenters : Reenters stack (S.keysAlong i route)
  first : ∀ other, S.Route registry i other → Reenters stack (S.keysAlong i other) →
    NoLater (placesAlong route) (placesAlong other)

/-- At a composite that is open, the first such route is the one without stops. -/
theorem FirstReentry.here {stack : List TypeKey} {i : S.Ref}
    (found : stack.any (· == S.key i) = true) : S.FirstReentry registry stack i [] :=
  ⟨.nil i, reenters_singleton.2 found, fun _ _ _ => trivial⟩

/-- At any other composite it goes through the first member from which there is one. -/
theorem FirstReentry.step {stack : List TypeKey} {i j : S.Ref} {k : Nat} {m : Member S.size}
    {rest : List S.Stop} (closed : stack.any (· == S.key i) = false)
    (declared : (S.descriptor i).members[k]? = some m)
    (leads : S.classify registry m.type = some (.composite j))
    (deeper : S.FirstReentry registry (S.key i :: stack) j rest)
    (earlier : ∀ k' < k, ∀ m', (S.descriptor i).members[k']? = some m' →
      ∀ j', S.classify registry m'.type = some (.composite j') → ∀ other,
        S.Route registry j' other → ¬ Reenters (S.key i :: stack) (S.keysAlong j' other)) :
    S.FirstReentry registry stack i (⟨k, m, j⟩ :: rest) := by
  refine ⟨.cons declared leads deeper.isRoute, reenters_cons.2 deeper.reenters, ?_⟩
  intro other isRoute reenters
  cases isRoute with
  | nil => exact absurd (reenters_singleton.1 reenters) (by simp [closed])
  | @cons _ stop after declared' leads' onward =>
    have again : Reenters (S.key i :: stack) (S.keysAlong stop.type after) :=
      reenters_cons.1 reenters
    show k < stop.place ∨ k = stop.place ∧ NoLater (placesAlong rest) (placesAlong after)
    rcases Nat.lt_trichotomy k stop.place with before | same | behind
    · exact Or.inl before
    · -- the same member, so the routes part only further on
      have sameMember : m = stop.member :=
        Option.some.inj (declared.symm.trans (same ▸ declared'))
      have sameType : j = stop.type := by
        rw [← sameMember, leads] at leads'
        exact Classification.composite.inj (Option.some.inj leads')
      exact Or.inr ⟨same, deeper.first after (sameType ▸ onward) (sameType ▸ again)⟩
    · exact absurd again (earlier stop.place behind stop.member declared' _ leads' after onward)

/-! ## Members by their places -/

/-- The members that a selection of a type has fields for. -/
def selectedMembers (S : Schema) (registry : Registry) (i : S.Ref) : List (Member S.size) :=
  match S.classify registry i with
  | some (.composite j) => (S.descriptor j).members
  | _ => []

/-- The member at the end of places, each a position among the members of the type before. -/
def memberAt? (S : Schema) (registry : Registry) (i : S.Ref) : List Nat → Option (Member S.size)
  | [] => none
  | [k] => (S.selectedMembers registry i)[k]?
  | k :: rest => ((S.selectedMembers registry i)[k]?).bind fun m => S.memberAt? registry m.type rest

theorem selectedMembers_of_composite {i j : S.Ref}
    (h : S.classify registry i = some (.composite j)) :
    S.selectedMembers registry i = (S.descriptor j).members := by
  rw [selectedMembers, h]

theorem selectedMembers_of_scalar {i : S.Ref} {key : TypeKey}
    (h : S.classify registry i = some (.scalar key)) : S.selectedMembers registry i = [] := by
  rw [selectedMembers, h]

/-- Below a leaf there are no members. -/
theorem memberAt?_of_scalar {i : S.Ref} {key : TypeKey}
    (h : S.classify registry i = some (.scalar key)) (places : List Nat) :
    S.memberAt? registry i places = none := by
  have bare := selectedMembers_of_scalar h
  match places with
  | [] => rfl
  | [k] => simp [memberAt?, bare]
  | k :: k' :: rest => simp [memberAt?, bare]

/-- The members selected of a type are those of the composite that it unwraps to. -/
theorem composite_of_selectedMembers {i : S.Ref} {m : Member S.size}
    (h : m ∈ S.selectedMembers registry i) :
    ∃ c, S.classify registry i = some (.composite c) ∧ m ∈ (S.descriptor c).members := by
  unfold selectedMembers at h
  cases classified : S.classify registry i with
  | none => simp [classified] at h
  | some found =>
    cases found with
    | scalar key => simp [classified] at h
    | composite c => exact ⟨c, rfl, by simpa [classified] using h⟩

/-- A type with members of its own is the composite that it unwraps to. -/
theorem eq_of_classifyWithin_of_mem {fuel : Nat} {i c : S.Ref} {m : Member S.size}
    (mem : m ∈ (S.descriptor i).members)
    (composite : S.classifyWithin registry fuel i = some (.composite c)) : c = i := by
  cases fuel with
  | zero => exact absurd composite (by simp [classifyWithin])
  | succ fuel =>
    unfold Descriptor.members at mem
    unfold classifyWithin at composite
    split at composite
    · exact absurd composite (by simp)
    · cases form : (S.descriptor i).form with
      | scalar => simp [form] at mem
      | collection j => simp [form] at mem
      | optional j => simp [form] at mem
      | composite members => simpa [form, eq_comm] using composite

/-- The member at some places belongs to the composite at the end of a route, one stop for each
    place but the last. -/
theorem exists_route_of_memberAt? {i : S.Ref} {places : List Nat} {m : Member S.size}
    (found : S.memberAt? registry i places = some m) :
    ∃ c route, S.classify registry i = some (.composite c) ∧ S.Route registry c route ∧
      route.length + 1 = places.length ∧ m ∈ (S.descriptor (endOf c route)).members := by
  induction places generalizing i with
  | nil => exact absurd found (by simp [memberAt?])
  | cons k rest ih =>
    cases rest with
    | nil =>
      obtain ⟨c, composite, mem⟩ := composite_of_selectedMembers (List.mem_of_getElem? found)
      exact ⟨c, [], composite, .nil c, rfl, mem⟩
    | cons k' rest =>
      obtain ⟨first, here, deeper⟩ := Option.bind_eq_some_iff.1 found
      obtain ⟨c, composite, -⟩ := composite_of_selectedMembers (List.mem_of_getElem? here)
      obtain ⟨j, route, leads, onward, length, mem⟩ := ih deeper
      rw [selectedMembers_of_composite composite] at here
      refine ⟨c, ⟨k, first, j⟩ :: route, composite, .cons here leads onward, ?_, mem⟩
      simpa using length

end TypedQuery.Schema
