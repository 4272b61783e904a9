import TypedQuery.Proofs.Literal.Basic

/-!
# `KeysDistinct` — objects have each key once

An object is made by inserting its entries one after the other, a repeated key keeping its first
place, so no value that is built has an object with a key twice (`keysDistinct_ofEntries`). What is
read back of it has the same keys in the same order, and is then an object of distinct keys as well
(`keysDistinct_skeleton`).
-/

set_option autoImplicit false

namespace TypedQuery

namespace Literal

mutual

/-- Every object in the literal has each key once. -/
def KeysDistinct : Literal → Prop
  | list items => AllDistinct items
  | object entries => Entries.Distinct entries ∧ EntriesDistinct entries
  | _ => True

def AllDistinct : List Literal → Prop
  | [] => True
  | item :: rest => KeysDistinct item ∧ AllDistinct rest

def EntriesDistinct : List (String × Literal) → Prop
  | [] => True
  | (_, value) :: rest => KeysDistinct value ∧ EntriesDistinct rest

end

end Literal

namespace Value

mutual

/-- Every object in the value has each key once. -/
def KeysDistinct : Value → Prop
  | list items => AllDistinct items
  | object entries => Entries.Distinct entries ∧ EntriesDistinct entries
  | _ => True

def AllDistinct : List Value → Prop
  | [] => True
  | item :: rest => KeysDistinct item ∧ AllDistinct rest

def EntriesDistinct : List (String × Value) → Prop
  | [] => True
  | (_, value) :: rest => KeysDistinct value ∧ EntriesDistinct rest

end

theorem entriesDistinct_iff {entries : List (String × Value)} :
    EntriesDistinct entries ↔ ∀ e ∈ entries, e.2.KeysDistinct := by
  induction entries with
  | nil => exact ⟨fun _ e mem => absurd mem List.not_mem_nil, fun _ => trivial⟩
  | cons e rest ih => rw [EntriesDistinct, ih, List.forall_mem_cons]

/-- The object of any entries has each key once. -/
theorem keysDistinct_ofEntries {entries : List (String × Value)}
    (inside : ∀ e ∈ entries, e.2.KeysDistinct) : (ofEntries entries).KeysDistinct := by
  have inserted : ∀ present : List (String × Value),
      Entries.Distinct present → (∀ e ∈ present, e.2.KeysDistinct) →
      Entries.Distinct (entries.foldl (fun present e => Entries.put e.1 e.2 present) present) ∧
        ∀ e ∈ entries.foldl (fun present e => Entries.put e.1 e.2 present) present,
          e.2.KeysDistinct := by
    induction entries with
    | nil => exact fun present distinct values => ⟨distinct, values⟩
    | cons entry rest ih =>
      intro present distinct values
      obtain ⟨here, later⟩ := List.forall_mem_cons.1 inside
      refine ih later _ (distinct.put entry.1 entry.2) fun e mem => ?_
      rcases Entries.mem_put mem with old | new
      · exact values e old
      · rw [new]
        exact here
  obtain ⟨distinct, values⟩ := inserted [] Entries.distinct_nil nofun
  exact ⟨distinct, entriesDistinct_iff.2 values⟩

/-- Entries of distinct keys are an object as they stand. -/
theorem ofEntries_of_distinct {entries : List (String × Value)}
    (distinct : Entries.Distinct entries) : ofEntries entries = .object entries :=
  congrArg object (Entries.Distinct.foldl_put (by exact distinct))

theorem keys_entrySkeletons (entries : List (String × Value)) :
    Entries.keys (entrySkeletons entries) = Entries.keys entries := by
  induction entries with
  | nil => rfl
  | cons e rest ih => exact congrArg (e.1 :: ·) ih

mutual

theorem keysDistinct_skeleton : ∀ v : Value, v.KeysDistinct → v.skeleton.KeysDistinct
  | .list items, distinct => allDistinct_skeletons items distinct
  | .object entries, ⟨keys, values⟩ => by
    refine ⟨?_, entriesDistinct_entrySkeletons entries values⟩
    unfold Entries.Distinct
    rw [keys_entrySkeletons]
    exact keys
  | .number (.natural _), _ | .number (.negative _ _), _ | .number (.float _ _), _ => trivial
  | .null, _ | .bool _, _ | .int _, _ | .uint _, _ | .int128 _, _ | .uint128 _, _ => trivial
  | .float _, _ | .text _, _ | .enum _, _ | .date _, _ | .time _, _ => trivial
  | .localDateTime _, _ | .dateTime _, _ => trivial

theorem allDistinct_skeletons : ∀ items : List Value,
    AllDistinct items → Literal.AllDistinct (skeletons items)
  | [], _ => trivial
  | item :: rest, ⟨first, others⟩ =>
    ⟨keysDistinct_skeleton item first, allDistinct_skeletons rest others⟩

theorem entriesDistinct_entrySkeletons : ∀ entries : List (String × Value),
    EntriesDistinct entries → Literal.EntriesDistinct (entrySkeletons entries)
  | [], _ => trivial
  | (_, value) :: rest, ⟨first, others⟩ =>
    ⟨keysDistinct_skeleton value first, entriesDistinct_entrySkeletons rest others⟩

end

end Value

end TypedQuery
