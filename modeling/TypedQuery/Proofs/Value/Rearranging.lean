import Mathlib.Logic.Relation
import TypedQuery.Proofs.Literal.Distinction
import TypedQuery.Proofs.Value.Equality

/-!
# `Rearranges` — the order of entries does not count

One step of rearranging takes the entries of one object, at any depth, into another order. What a value is
equal to does not change by it (`equals_of_rearranges`): an object asks for each of its entries by itself,
and a list or an object around it asks nothing of it but what it is equal to. So any number of steps on
either side of a comparison leave its answer as it is, and `equals_partial_equivalence` says what equality
of values is.
-/

set_option autoImplicit false

namespace TypedQuery

namespace Value

variable {a b v w : Value}

/-- The entries of one object, at some depth, are put in another order. -/
def Rearranges (v w : Value) : Prop :=
  ∃ (C : Context) (entries entries' : List (String × Value)), entries.Perm entries' ∧
    C.fill (.object entries) = v ∧ C.fill (.object entries') = w

/-! ## What a value is equal to -/

theorem equalItems_congr (before after : List Value) (same : ∀ b, w.equals b = v.equals b)
    (bs : List Value) :
    equalItems (before ++ w :: after) bs = equalItems (before ++ v :: after) bs := by
  induction before generalizing bs with
  | nil => cases bs <;> simp [equalItems, same]
  | cons first rest ih => cases bs <;> simp [equalItems, ih]

theorem matchEntries_congr (before after : List (String × Value)) (key : String)
    (same : ∀ b, w.equals b = v.equals b) (bs : List (String × Value)) :
    matchEntries (before ++ (key, w) :: after) bs =
      matchEntries (before ++ (key, v) :: after) bs := by
  induction before with
  | nil => simp [matchEntries, same]
  | cons e rest ih => simp [matchEntries, ih]

theorem equals_fill_congr (C : Context) (same : ∀ b, w.equals b = v.equals b) (b : Value) :
    (C.fill w).equals b = (C.fill v).equals b := by
  induction C generalizing b with
  | here => exact same b
  | item before inside after ih =>
    cases b with
    | list bs =>
      rw [Context.fill, Context.fill, equals, equals]
      exact equalItems_congr before after ih bs
    | _ => rfl
  | entry before key inside after ih =>
    cases b with
    | object bs =>
      rw [Context.fill, Context.fill, equals, equals, matchEntries_congr before after key ih bs]
      simp
    | _ => rfl

theorem equals_object_perm {entries entries' : List (String × Value)}
    (perm : entries.Perm entries') (b : Value) :
    (object entries').equals b = (object entries).equals b := by
  cases b with
  | object bs =>
    have matched : matchEntries entries' bs = matchEntries entries bs := by
      rw [Bool.eq_iff_iff, matchEntries_iff, matchEntries_iff]
      exact forall_congr' fun e => by rw [perm.mem_iff]
    rw [equals, equals, perm.length_eq, matched]
  | _ => rfl

theorem equals_of_rearranges (rearranged : Rearranges v w) (b : Value) :
    w.equals b = v.equals b := by
  obtain ⟨C, entries, entries', perm, rfl, rfl⟩ := rearranged
  exact equals_fill_congr C (equals_object_perm perm) b

theorem equals_of_rearranged (rearranged : Relation.ReflTransGen Rearranges v w) (b : Value) :
    w.equals b = v.equals b := by
  induction rearranged with
  | refl => rfl
  | tail _ last ih => rw [equals_of_rearranges last, ih]

/-! ## Keys stay distinct -/

theorem keysDistinct_fill_congr (C : Context) (same : v.KeysDistinct → w.KeysDistinct)
    (distinct : (C.fill v).KeysDistinct) : (C.fill w).KeysDistinct := by
  induction C with
  | here => exact same distinct
  | item before inside after ih =>
    have items := allDistinct_iff.1 distinct
    rw [List.forall_mem_append, List.forall_mem_cons] at items
    refine allDistinct_iff.2 ?_
    rw [List.forall_mem_append, List.forall_mem_cons]
    exact ⟨items.1, ih items.2.1, items.2.2⟩
  | entry before key inside after ih =>
    obtain ⟨keys, entries⟩ := distinct
    rw [entriesDistinct_iff, List.forall_mem_append, List.forall_mem_cons] at entries
    refine ⟨by simpa [Entries.Distinct, Entries.keys] using keys, ?_⟩
    rw [entriesDistinct_iff, List.forall_mem_append, List.forall_mem_cons]
    exact ⟨entries.1, ih entries.2.1, entries.2.2⟩

theorem keysDistinct_object_perm {entries entries' : List (String × Value)}
    (perm : entries.Perm entries') (distinct : (object entries).KeysDistinct) :
    (object entries').KeysDistinct := by
  refine ⟨?_, entriesDistinct_iff.2 fun e mem => entriesDistinct_iff.1 distinct.2 e (perm.mem_iff.2 mem)⟩
  refine (List.Perm.pairwise_iff ?_ (perm.map _)).1 distinct.1
  intro k k' apart
  rw [BEq.comm, apart]

theorem keysDistinct_of_rearranged (rearranged : Relation.ReflTransGen Rearranges v w)
    (distinct : v.KeysDistinct) : w.KeysDistinct := by
  induction rearranged with
  | refl => exact distinct
  | tail _ last ih =>
    obtain ⟨C, entries, entries', perm, rfl, rfl⟩ := last
    exact keysDistinct_fill_congr C (keysDistinct_object_perm perm) ih

/-- **Equality is a partial equivalence that ignores the order of entries.** On values whose objects
    have each key once it is symmetric, and it is transitive; a value is equal to itself exactly if no
    float in it is a NaN, at whatever depth. Putting the entries of objects in another order, on either
    side, changes nothing. Values of different variants are not equal, those of the plain ones only to
    themselves; lists are equal place by place, of equal length; objects are equal if they have the same
    keys and under each equal values. -/
theorem equals_partial_equivalence {a b : Value} (da : a.KeysDistinct) (db : b.KeysDistinct) :
    a.equals b = b.equals a ∧
    (∀ c, a.equals b = true → b.equals c = true → a.equals c = true) ∧
    (a.equals a = true ↔ ∀ x, a.Contains (.float x) → x.isNaN = false) ∧
    (∀ a' b', Relation.ReflTransGen Rearranges a a' → Relation.ReflTransGen Rearranges b b' →
      a'.KeysDistinct ∧ b'.KeysDistinct ∧ a'.equals b' = a.equals b) ∧
    (a.ctorIdx ≠ b.ctorIdx → a.equals b = false) ∧
    (a.isPlain = true → (a.equals b = true ↔ a = b)) ∧
    (∀ as bs, a = .list as → b = .list bs →
      (a.equals b = true ↔ List.Forall₂ (fun x y => x.equals y = true) as bs)) ∧
    ∀ as bs, a = .object as → b = .object bs →
      (a.equals b = true ↔ (∀ key, key ∈ Entries.keys as ↔ key ∈ Entries.keys bs) ∧
        ∀ key x y, (key, x) ∈ as → (key, y) ∈ bs → x.equals y = true) := by
  refine ⟨equals_comm da db, fun c => equals_trans, equals_self_iff da, ?_, ?_, equals_plain_iff, ?_, ?_⟩
  · intro a' b' left right
    have db' := keysDistinct_of_rearranged right db
    refine ⟨keysDistinct_of_rearranged left da, db', ?_⟩
    calc a'.equals b' = a.equals b' := equals_of_rearranged left b'
      _ = b'.equals a := equals_comm da db'
      _ = b.equals a := equals_of_rearranged right a
      _ = a.equals b := equals_comm db da
  · intro different
    exact Bool.eq_false_iff.2 fun same => different (ctorIdx_eq_of_equals same)
  · rintro as bs rfl rfl
    exact equals_list_iff
  · rintro as bs rfl rfl
    rw [equals_object_iff da.1 db.1]
    exact ⟨fun h => ⟨h.keys, h.values⟩, fun h => ⟨h.1, h.2⟩⟩

/-- A nested object with a zero in it. -/
def posted : Value :=
  .object [("weight", .float ⟨0⟩),
    ("tags", .list [.enum "NEW", .object [("x", .int 1), ("y", .null)]])]

/-- The same with its entries in another order, and with the negative zero. -/
def resent : Value :=
  .object [("tags", .list [.enum "NEW", .object [("y", .null), ("x", .int 1)]]),
    ("weight", .float ⟨0x8000000000000000⟩)]

theorem posted_equals_resent :
    posted.KeysDistinct ∧ resent.KeysDistinct ∧ posted.equals resent = true ∧
      resent.equals posted = true ∧ ∀ x, posted.Contains (.float x) → x.isNaN = false := by
  have keys : posted.KeysDistinct := by
    simp [posted, KeysDistinct, AllDistinct, EntriesDistinct, Entries.Distinct, Entries.keys]
  have keys' : resent.KeysDistinct := by
    simp [resent, KeysDistinct, AllDistinct, EntriesDistinct, Entries.Distinct, Entries.keys]
  have there : posted.equals resent = true := by decide
  obtain ⟨turned, chained, self, -⟩ := equals_partial_equivalence keys keys'
  have back : resent.equals posted = true := turned.symm.trans there
  exact ⟨keys, keys', there, back, self.1 (chained posted there back)⟩

end Value

end TypedQuery
