import Mathlib.Data.Finset.Card
import TypedQuery.Shape.Registry

/-!
# `registerAll` — a registry is the set of the types it was given

Registering changes nothing about a type that is present, its kind included, and adds any other as a
custom one. So a registry that starts with the builtin types is known from **which** types were
registered since: not in what order, not how often, and not under which names, since keys are compared
by their numbers (`registerAll_fresh`). That it holds a type at most once is the invariant behind its
size, kept by every registration (`distinct_register`).
-/

set_option autoImplicit false

namespace TypedQuery

namespace Builtin

/-- The numbers of the builtin types. -/
def ids : Finset Nat := (all.map (·.key.id)).toFinset

theorem eq_of_key_beq {b b' : Builtin} (same : (b.key == b'.key) = true) : b = b' := by
  have number : b.ctorIdx = b'.ctorIdx := TypeKey.beq_iff.1 same
  cases b <;> cases b' <;> first | rfl | exact absurd number (by decide)

end Builtin

namespace Registry

variable {r : Registry} {key : TypeKey}

/-! ## Kinds -/

theorem kindOf_registerAll (r : Registry) (keys : List TypeKey) (key : TypeKey) :
    (r.registerAll keys).kindOf key =
      (r.kindOf key).or (if keys.any (key == ·) then some .custom else none) := by
  unfold registerAll
  induction keys generalizing r with
  | nil => simp
  | cons first rest ih =>
    rw [List.foldl_cons, ih, kindOf_register, List.any_cons, Option.or_assoc]
    cases key == first <;> simp

theorem kindOf_registerAll_of_some {kind : ScalarKind} (found : r.kindOf key = some kind)
    (keys : List TypeKey) : (r.registerAll keys).kindOf key = some kind := by
  rw [kindOf_registerAll, found, Option.some_or]

theorem kindOf_builtin {b : Builtin} (same : (key == b.key) = true) :
    builtin.kindOf key = some b.kind := by
  unfold kindOf
  rw [Entries.lookup_congr same]
  cases b <;> rfl

theorem kindOf_builtin_eq_none (other : ∀ b : Builtin, (key == b.key) = false) :
    builtin.kindOf key = none := by
  rw [kindOf, List.lookup_eq_none_iff]
  intro entry mem
  obtain ⟨b, -, rfl⟩ := List.mem_map.1 mem
  show (!(key == b.key)) = true
  rw [other b]
  rfl

theorem contains_builtin_iff :
    builtin.contains key = true ↔ ∃ b : Builtin, (key == b.key) = true := by
  constructor
  · intro held
    by_contra none
    rw [contains, kindOf_builtin_eq_none fun b => by simpa using fun same => none ⟨b, same⟩] at held
    exact absurd held (by simp)
  · rintro ⟨b, same⟩
    rw [contains, kindOf_builtin same]
    rfl

/-! ## Size -/

/-- The numbers of the registered types. -/
def ids (r : Registry) : Finset Nat := (r.entries.map (·.1.id)).toFinset

theorem contains_iff_mem_ids : r.contains key = true ↔ key.id ∈ r.ids := by
  unfold contains kindOf ids
  induction r.entries with
  | nil => simp
  | cons entry rest ih =>
    rw [List.lookup_cons, List.map_cons, List.toFinset_cons, Finset.mem_insert, ← ih]
    cases same : key == entry.1 with
    | true => simp [TypeKey.beq_iff.1 same]
    | false =>
      have apart : key.id ≠ entry.1.id := fun equal => by simp [TypeKey.beq_iff.2 equal] at same
      simp [apart]

/-- **A registration keeps every type at most once.** -/
theorem distinct_register (distinct : Entries.Distinct r.entries) (key : TypeKey) :
    Entries.Distinct (r.register key).entries := by
  by_cases held : r.contains key = true
  · rw [register, if_pos held]
    exact distinct
  · rw [register, if_neg held]
    unfold Entries.Distinct Entries.keys
    rw [List.map_append]
    refine List.pairwise_append.2 ⟨distinct, List.pairwise_singleton .., ?_⟩
    intro present mem added single
    obtain rfl := List.mem_singleton.1 single
    obtain ⟨entry, listed, rfl⟩ := List.mem_map.1 mem
    -- an entry of an equal key would have been found
    refine Bool.eq_false_iff.2 fun same => held (contains_iff_mem_ids.2 ?_)
    rw [ids, List.mem_toFinset, ← TypeKey.beq_iff.1 same]
    exact List.mem_map_of_mem listed

theorem distinct_registerAll (distinct : Entries.Distinct r.entries) (keys : List TypeKey) :
    Entries.Distinct (r.registerAll keys).entries := by
  unfold registerAll
  induction keys generalizing r with
  | nil => exact distinct
  | cons first rest ih => exact ih (distinct_register distinct first)

theorem distinct_builtin : Entries.Distinct builtin.entries := by
  have keys : Entries.keys builtin.entries = Builtin.all.map Builtin.key := rfl
  unfold Entries.Distinct
  rw [keys, List.pairwise_map]
  have nodup : Builtin.all.Nodup := by decide
  exact nodup.imp fun apart => Bool.eq_false_iff.2 fun same => apart (Builtin.eq_of_key_beq same)

theorem ids_builtin : builtin.ids = Builtin.ids := by
  rw [ids, builtin, List.map_map]
  rfl

theorem ids_register (r : Registry) (key : TypeKey) :
    (r.register key).ids = insert key.id r.ids := by
  by_cases held : r.contains key = true
  · rw [register, if_pos held, Finset.insert_eq_of_mem (contains_iff_mem_ids.1 held)]
  · rw [register, if_neg held]
    ext id
    simp [ids]

theorem ids_registerAll (r : Registry) (keys : List TypeKey) :
    (r.registerAll keys).ids = r.ids ∪ (keys.map (·.id)).toFinset := by
  unfold registerAll
  induction keys generalizing r with
  | nil => simp
  | cons first rest ih =>
    rw [List.foldl_cons, ih, ids_register, List.map_cons, List.toFinset_cons, Finset.insert_union,
      Finset.union_insert]

theorem size_eq_card (distinct : Entries.Distinct r.entries) : r.size = r.ids.card := by
  have nodup : (r.entries.map (·.1.id)).Nodup := by
    have keys := List.pairwise_map.1 distinct
    refine List.pairwise_map.2 (keys.imp fun apart same => ?_)
    exact absurd (TypeKey.beq_iff.2 same) (by simp [apart])
  rw [ids, List.toFinset_card_of_nodup nodup, List.length_map]
  rfl

theorem size_registerAll (distinct : Entries.Distinct r.entries) (keys : List TypeKey) :
    (r.registerAll keys).size = r.size + ((keys.map (·.id)).toFinset \ r.ids).card := by
  rw [size_eq_card (distinct_registerAll distinct keys), size_eq_card distinct, ids_registerAll,
    ← Finset.union_sdiff_self_eq_union, Finset.card_union_of_disjoint Finset.disjoint_sdiff]

/-! ## Runs of registrations -/

/-- Equal as tables: as many entries, and every key finds the same. -/
structure Same (r r' : Registry) : Prop where
  kindOf : ∀ key, r'.kindOf key = r.kindOf key
  size : r'.size = r.size

theorem mem_numbers_iff {keys : List TypeKey} {id : Nat} :
    id ∈ (keys.map (·.id)).toFinset ↔ keys.any (TypeKey.mk id "" == ·) = true := by
  rw [List.mem_toFinset, List.mem_map, List.any_eq_true]
  refine exists_congr fun k => and_congr_right fun _ => ?_
  rw [TypeKey.beq_iff, eq_comm]

/-- What is registered is a set: which types were named is all that counts. -/
theorem same_registerAll (distinct : Entries.Distinct r.entries) {keys keys' : List TypeKey}
    (named : ∀ key, keys'.any (key == ·) = keys.any (key == ·)) :
    (r.registerAll keys).Same (r.registerAll keys') := by
  constructor
  · intro key
    rw [kindOf_registerAll, kindOf_registerAll, named]
  · have numbers : (keys'.map (·.id)).toFinset = (keys.map (·.id)).toFinset := by
      ext id
      rw [mem_numbers_iff, mem_numbers_iff, named]
    rw [size_registerAll distinct, size_registerAll distinct, numbers]

/-- **A registry is a set that only grows, with stable kinds.** After any registrations on a fresh
    registry the types it holds are the builtin ones and those registered; a builtin type has its own
    kind, registered again or not, and every other type is custom; there are as many types as builtin
    ones and distinct others; a type that is held stays so, with its kind, whatever is registered later;
    and registrations of the same types, in any order and any number of times and under any names, give
    the same registry. -/
theorem registerAll_fresh (keys : List TypeKey) :
    let r := builtin.registerAll keys
    (∀ key, r.contains key = true ↔
      (∃ b : Builtin, (key == b.key) = true) ∨ ∃ k ∈ keys, (key == k) = true) ∧
    (∀ key (b : Builtin), (key == b.key) = true → r.kindOf key = some b.kind) ∧
    (∀ key, (∀ b : Builtin, (key == b.key) = false) →
      r.kindOf key = if keys.any (key == ·) then some .custom else none) ∧
    r.size = Builtin.count + ((keys.map (·.id)).toFinset \ Builtin.ids).card ∧
    (∀ more key kind, r.kindOf key = some kind → (r.registerAll more).kindOf key = some kind) ∧
    ∀ keys', (∀ key, keys'.any (key == ·) = keys.any (key == ·)) →
      r.Same (builtin.registerAll keys') := by
  intro r
  refine ⟨fun key => ?_, fun key b same => ?_, fun key other => ?_, ?_, fun more key kind found => ?_,
    fun keys' named => ?_⟩
  · rw [contains_registerAll, Bool.or_eq_true, contains_builtin_iff, List.any_eq_true]
  · exact kindOf_registerAll_of_some (kindOf_builtin same) keys
  · rw [kindOf_registerAll, kindOf_builtin_eq_none other, Option.none_or]
  · rw [size_registerAll distinct_builtin, ids_builtin]
    rfl
  · exact kindOf_registerAll_of_some found more
  · exact same_registerAll distinct_builtin named

end Registry

end TypedQuery
