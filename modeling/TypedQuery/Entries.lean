/-!
# `Entries` — tables in order of first insertion

A table is a list of keys with their values. `Entries.put` keeps the order in which keys first
arrived: a new key goes to the end, a present key keeps its place and takes the new value.
Values are looked up with core's `List.lookup`, and `lookup_put` says what is found after a
`put`. A table whose keys are distinct stays one (`Distinct.put`), and in it what is looked up is
what is listed (`Distinct.lookup_eq_some`).
-/

set_option autoImplicit false

namespace TypedQuery.Entries

variable {κ α : Type}

/-- Sets the value of a key. -/
def put [BEq κ] (key : κ) (value : α) : List (κ × α) → List (κ × α)
  | [] => [(key, value)]
  | (k, v) :: rest =>
    if k == key then (k, value) :: rest else (k, v) :: put key value rest

/-- The keys, in order. -/
def keys (entries : List (κ × α)) : List κ := entries.map (·.1)

/-- Putting a present key moves nothing; putting a new one appends it. -/
theorem keys_put [BEq κ] (key : κ) (value : α) (entries : List (κ × α)) :
    keys (put key value entries) =
      if (keys entries).any (· == key) then keys entries else keys entries ++ [key] := by
  induction entries with
  | nil => simp [put, keys]
  | cons e rest ih =>
    obtain ⟨k, v⟩ := e
    by_cases hk : (k == key) = true
    · simp [put, keys, hk]
    · rw [put, if_neg hk, keys, List.map_cons, ← keys, ih]
      simp only [keys, List.map_cons, List.any_cons, hk, Bool.false_or]
      exact apply_ite (k :: ·) ..

/-- A new key goes to the end. -/
theorem put_of_absent [BEq κ] {key : κ} (value : α) {entries : List (κ × α)}
    (absent : ∀ k ∈ keys entries, (k == key) = false) :
    put key value entries = entries ++ [(key, value)] := by
  induction entries with
  | nil => rfl
  | cons e rest ih =>
    obtain ⟨here, later⟩ := List.forall_mem_cons.1 absent
    rw [put, if_neg (Bool.eq_false_iff.1 here), ih later, List.cons_append]

/-- Equal keys find the same value. -/
theorem lookup_congr [BEq κ] [EquivBEq κ] {a b : κ} (h : a == b) (entries : List (κ × α)) :
    entries.lookup a = entries.lookup b := by
  induction entries with
  | nil => rfl
  | cons e rest ih => rw [List.lookup_cons, List.lookup_cons, BEq.congr_left h, ih]

/-- Putting a key changes what is found under it and under no other. -/
theorem lookup_put [BEq κ] [EquivBEq κ] (key other : κ) (value : α) (entries : List (κ × α)) :
    (put key value entries).lookup other =
      if other == key then some value else entries.lookup other := by
  induction entries with
  | nil => cases h : other == key <;> simp [put, List.lookup_cons, h]
  | cons e rest ih =>
    obtain ⟨k, v⟩ := e
    by_cases hk : (k == key) = true
    · have same : (other == k) = (other == key) := BEq.congr_right hk
      cases h : other == key <;> simp [put, hk, List.lookup_cons, same, h]
    · rw [put, if_neg hk, List.lookup_cons, List.lookup_cons, ih]
      cases ho : other == k with
      | false => rfl
      | true =>
        have apart : (other == key) = false := by
          rw [BEq.congr_left ho]
          exact Bool.eq_false_iff.2 hk
        simp [apart]

/-- After a put there are the entries of before and one of the value that was put. -/
theorem mem_put [BEq κ] {key : κ} {value : α} {entries : List (κ × α)} {e : κ × α}
    (h : e ∈ put key value entries) : e ∈ entries ∨ e.2 = value := by
  induction entries with
  | nil => exact Or.inr (by rw [List.mem_singleton.1 h])
  | cons first rest ih =>
    obtain ⟨k, v⟩ := first
    unfold put at h
    split at h
    · rcases List.mem_cons.1 h with rfl | below
      · exact Or.inr rfl
      · exact Or.inl (List.mem_cons_of_mem _ below)
    · rcases List.mem_cons.1 h with rfl | below
      · exact Or.inl List.mem_cons_self
      · exact (ih below).imp_left (List.mem_cons_of_mem _)

/-! ## Distinct keys -/

/-- No key stands in the table twice. -/
def Distinct [BEq κ] (entries : List (κ × α)) : Prop :=
  (keys entries).Pairwise fun a b => (a == b) = false

theorem distinct_nil [BEq κ] : Distinct ([] : List (κ × α)) := List.Pairwise.nil

theorem Distinct.put [BEq κ] {entries : List (κ × α)} (h : Distinct entries) (key : κ)
    (value : α) : Distinct (put key value entries) := by
  unfold Distinct
  rw [keys_put]
  split
  · exact h
  · rename_i absent
    refine List.pairwise_append.2 ⟨h, List.pairwise_singleton .., fun a ha b hb => ?_⟩
    obtain rfl := List.mem_singleton.1 hb
    exact Bool.eq_false_iff.2 fun equal => absent (List.any_eq_true.2 ⟨a, ha, equal⟩)

/-- Appending an entry of a new key. -/
theorem Distinct.concat [BEq κ] [LawfulBEq κ] {entries : List (κ × α)} (h : Distinct entries)
    {key : κ} (absent : key ∉ keys entries) (value : α) :
    Distinct (entries ++ [(key, value)]) := by
  unfold Distinct keys
  rw [List.map_append]
  refine List.pairwise_append.2 ⟨h, List.pairwise_singleton .., fun a ha b hb => ?_⟩
  obtain rfl := List.mem_singleton.1 hb
  exact beq_false_of_ne fun equal => absent (equal ▸ ha)

/-- Inserted one after the other behind entries of other keys, entries of distinct keys are appended. -/
theorem Distinct.foldl_put [BEq κ] {present entries : List (κ × α)}
    (h : Distinct (present ++ entries)) :
    entries.foldl (fun present e => Entries.put e.1 e.2 present) present = present ++ entries := by
  induction entries generalizing present with
  | nil => exact (List.append_nil present).symm
  | cons e rest ih =>
    have apart := (List.pairwise_append.1 (by simpa [Distinct, keys] using h)).2.2
    have appended : Entries.put e.1 e.2 present = present ++ [e] :=
      put_of_absent e.2 fun k mem => apart k mem e.1 (by simp)
    have together : present ++ e :: rest = present ++ [e] ++ rest := by simp
    rw [List.foldl_cons, appended, together]
    exact ih (together ▸ h)

/-- An entry that is looked up is listed, under an equal key. -/
theorem mem_of_lookup_eq_some [BEq κ] {key : κ} {value : α} {entries : List (κ × α)}
    (h : entries.lookup key = some value) : ∃ k, (key == k) = true ∧ (k, value) ∈ entries := by
  induction entries with
  | nil => simp at h
  | cons e rest ih =>
    obtain ⟨k, v⟩ := e
    rw [List.lookup_cons] at h
    cases hk : key == k with
    | true =>
      rw [hk] at h
      obtain rfl := Option.some.inj h
      exact ⟨k, hk, List.mem_cons_self⟩
    | false =>
      rw [hk] at h
      obtain ⟨k', hk', mem⟩ := ih h
      exact ⟨k', hk', List.mem_cons_of_mem _ mem⟩

/-- Of distinct keys every entry is found. -/
theorem Distinct.lookup_eq_some [BEq κ] [EquivBEq κ] {entries : List (κ × α)}
    (h : Distinct entries) {key : κ} {value : α} (mem : (key, value) ∈ entries) :
    entries.lookup key = some value := by
  induction entries with
  | nil => simp at mem
  | cons e rest ih =>
    obtain ⟨k, v⟩ := e
    obtain ⟨apart, tail⟩ := List.pairwise_cons.1 h
    rw [List.lookup_cons]
    rcases List.mem_cons.1 mem with same | below
    · obtain ⟨rfl, rfl⟩ := Prod.mk.inj same
      rw [BEq.rfl]
    · have differ : (key == k) = false := by
        rw [BEq.comm]
        exact apart key (List.mem_map_of_mem below)
      rw [differ]
      exact ih tail below

end TypedQuery.Entries
