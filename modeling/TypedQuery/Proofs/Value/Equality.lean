import Mathlib.Data.List.Perm.Subperm
import TypedQuery.Proofs.Literal.Composition
import TypedQuery.Proofs.Literal.Keys

/-!
# `equals` — values are equal by what they contain

What equality does at the top of two values is said once, by `Equated`: most leaves are equal to
themselves only; floats, numbers and date-times are compared as what they stand for; lists item by item;
of objects the entries of the one are looked up in the other. All that follows is an induction on what
stands directly in a value (`parts_induction`), with one case for each of these.

The look-up goes one way only. It is as good as both ways because keys are distinct and the entries
equally many: then the two objects have the same keys (`Entries.corresponds_iff`), and that is where
symmetry comes from. Transitivity needs no such thing. A NaN is what keeps equality from being reflexive,
and nothing else does (`equals_self_iff`).
-/

set_option autoImplicit false

namespace TypedQuery

/-! ## Tables that correspond -/

namespace Entries

variable {κ α β : Type} {R : α → β → Prop} {as : List (κ × α)} {bs : List (κ × β)}

theorem mem_keys_iff {key : κ} : key ∈ keys as ↔ ∃ a, (key, a) ∈ as := by
  simp [keys]

theorem Distinct.nodup [BEq κ] [LawfulBEq κ] (distinct : Distinct as) : (keys as).Nodup :=
  List.Pairwise.imp (fun apart => by simpa using apart) distinct

theorem Distinct.eq_of_mem [BEq κ] [EquivBEq κ] (distinct : Distinct as) {key : κ} {a a' : α}
    (mem : (key, a) ∈ as) (mem' : (key, a') ∈ as) : a = a' := by
  have found := distinct.lookup_eq_some mem
  rw [distinct.lookup_eq_some mem'] at found
  exact (Option.some.inj found).symm

/-- Two tables of the same keys, with related values under each. -/
structure Corresponds (R : α → β → Prop) (as : List (κ × α)) (bs : List (κ × β)) : Prop where
  keys : ∀ key, key ∈ keys as ↔ key ∈ keys bs
  values : ∀ key a b, (key, a) ∈ as → (key, b) ∈ bs → R a b

theorem Corresponds.symm {R' : β → α → Prop} (h : Corresponds R as bs)
    (turn : ∀ key a b, (key, a) ∈ as → (key, b) ∈ bs → R a b → R' b a) : Corresponds R' bs as where
  keys key := (h.keys key).symm
  values key b a mem mem' := turn key a b mem' mem (h.values key a b mem' mem)

/-- Of distinct keys it is enough to look up the entries of the one table in the other, if they are
    equally many. -/
theorem corresponds_iff [BEq κ] [LawfulBEq κ] (das : Distinct as) (dbs : Distinct bs) :
    (as.length = bs.length ∧ ∀ e ∈ as, ∃ b, bs.lookup e.1 = some b ∧ R e.2 b) ↔
      Corresponds R as bs := by
  constructor
  · rintro ⟨size, found⟩
    have subset : Entries.keys as ⊆ Entries.keys bs := by
      intro key mem
      obtain ⟨a, mem⟩ := mem_keys_iff.1 mem
      obtain ⟨b, lookup, -⟩ := found (key, a) mem
      obtain ⟨k, same, mem⟩ := mem_of_lookup_eq_some lookup
      obtain rfl : key = k := eq_of_beq same
      exact mem_keys_iff.2 ⟨b, mem⟩
    -- a list without repetitions that lies in one of the same length fills it
    have same : (Entries.keys as).Perm (Entries.keys bs) := by
      refine (List.subperm_of_subset das.nodup subset).perm_of_length_le ?_
      simp [Entries.keys, size]
    refine ⟨fun key => same.mem_iff, ?_⟩
    intro key a b mem mem'
    obtain ⟨b', lookup, related⟩ := found (key, a) mem
    rw [dbs.lookup_eq_some mem'] at lookup
    rwa [Option.some.inj lookup]
  · intro h
    have same : (Entries.keys as).Perm (Entries.keys bs) :=
      (List.perm_ext_iff_of_nodup das.nodup dbs.nodup).2 h.keys
    refine ⟨by simpa [Entries.keys] using same.length_eq, ?_⟩
    rintro ⟨key, a⟩ mem
    obtain ⟨b, mem'⟩ := mem_keys_iff.1 ((h.keys key).1 (mem_keys_iff.2 ⟨a, mem⟩))
    exact ⟨b, dbs.lookup_eq_some mem', h.values key a b mem mem'⟩

end Entries

/-! ## Floats, numbers, instants -/

namespace Binary64

variable {x y z : Binary64}

theorem isNaN_of_isFinite (finite : x.isFinite = true) : x.isNaN = false := by
  have exponent : (Binary.binary64.exponent x.bits == Binary.binary64.topExponent) = false := by
    simpa [isFinite, Binary.Format.isFinite] using finite
  rw [isNaN, Binary.Format.isNaN, exponent, Bool.false_and]

theorem equals_self_iff : x.equals x = true ↔ x.isNaN = false := by
  simp [equals]

theorem equals_symm (same : x.equals y = true) : y.equals x = true := by
  simp only [equals, Bool.and_eq_true, Bool.or_eq_true, Bool.not_eq_true', beq_iff_eq] at same ⊢
  obtain ⟨⟨nx, ny⟩, words | zeros⟩ := same
  · exact ⟨⟨ny, nx⟩, Or.inl words.symm⟩
  · exact ⟨⟨ny, nx⟩, Or.inr zeros.symm⟩

theorem equals_trans (first : x.equals y = true) (second : y.equals z = true) :
    x.equals z = true := by
  simp only [equals, Bool.and_eq_true, Bool.or_eq_true, Bool.not_eq_true', beq_iff_eq]
    at first second ⊢
  obtain ⟨⟨nx, -⟩, words | zeros⟩ := first
  · have whole : x = y := congrArg Binary64.mk words
    rw [whole]
    exact second
  · obtain ⟨⟨-, nz⟩, words' | zeros'⟩ := second
    · have whole : y = z := congrArg Binary64.mk words'
      exact ⟨⟨nx, nz⟩, Or.inr ⟨zeros.1, whole ▸ zeros.2⟩⟩
    · exact ⟨⟨nx, nz⟩, Or.inr ⟨zeros.1, zeros'.2⟩⟩

end Binary64

namespace JsonNumber

variable {l m n : JsonNumber}

theorem equals_self (n : JsonNumber) : n.equals n = true := by
  cases n with
  | float x finite => exact Binary64.equals_self_iff.2 (Binary64.isNaN_of_isFinite finite)
  | _ => simp [equals]

theorem equals_symm (same : m.equals n = true) : n.equals m = true := by
  cases m <;> cases n <;> simp only [equals, beq_iff_eq, Bool.false_eq_true] at same ⊢
  · exact same.symm
  · exact same.symm
  · exact Binary64.equals_symm same

theorem equals_trans (first : l.equals m = true) (second : m.equals n = true) :
    l.equals n = true := by
  cases l <;> cases m <;> simp only [equals, beq_iff_eq, Bool.false_eq_true] at first <;>
    cases n <;> simp only [equals, beq_iff_eq, Bool.false_eq_true] at second ⊢
  · exact first.trans second
  · exact first.trans second
  · exact Binary64.equals_trans first second

end JsonNumber

theorem DateTime.sameInstant_iff {s t : DateTime} : s.sameInstant t = true ↔
    s.instantSecond = t.instantSecond ∧
      s.localTime.time.nanosecond = t.localTime.time.nanosecond := by
  simp [sameInstant]

namespace Value

variable {a b c v w : Value}

/-! ## One level of equality -/

theorem equalItems_iff {as bs : List Value} :
    equalItems as bs = true ↔ List.Forall₂ (fun a b => a.equals b = true) as bs := by
  induction as generalizing bs with
  | nil => cases bs <;> simp [equalItems]
  | cons a rest ih => cases bs <;> simp [equalItems, ih]

theorem matchEntries_iff {as bs : List (String × Value)} :
    matchEntries as bs = true ↔ ∀ e ∈ as, ∃ b, bs.lookup e.1 = some b ∧ e.2.equals b = true := by
  induction as with
  | nil => simp [matchEntries]
  | cons e rest ih =>
    obtain ⟨key, a⟩ := e
    cases found : bs.lookup key <;> simp [matchEntries, ih, found]

/-- The leaves that are equal to themselves only. -/
def isPlain : Value → Bool
  | .float _ | .number _ | .dateTime _ | .list _ | .object _ => false
  | _ => true

/-- How two values are equal, given how what they contain is. -/
inductive Equated : Value → Value → Prop where
  | plain {v : Value} (isPlain : v.isPlain = true) : Equated v v
  | float {x y : Binary64} (same : x.equals y = true) : Equated (.float x) (.float y)
  | number {m n : JsonNumber} (same : m.equals n = true) : Equated (.number m) (.number n)
  | dateTime {s t : DateTime} (same : s.sameInstant t = true) : Equated (.dateTime s) (.dateTime t)
  | list {as bs : List Value} (items : List.Forall₂ (fun a b => a.equals b = true) as bs) :
      Equated (.list as) (.list bs)
  | object {as bs : List (String × Value)} (size : as.length = bs.length)
      (found : ∀ e ∈ as, ∃ b, bs.lookup e.1 = some b ∧ e.2.equals b = true) :
      Equated (.object as) (.object bs)

theorem equated_of_equals (same : a.equals b = true) : Equated a b := by
  cases a with
  | float x =>
    cases b
    case float y => exact .float (by simpa only [equals] using same)
    all_goals exact absurd same (by simp [equals])
  | number m =>
    cases b
    case number n => exact .number (by simpa only [equals] using same)
    all_goals exact absurd same (by simp [equals])
  | dateTime s =>
    cases b
    case dateTime t => exact .dateTime (by simpa only [equals] using same)
    all_goals exact absurd same (by simp [equals])
  | list as =>
    cases b
    case list bs => exact .list (equalItems_iff.1 (by simpa only [equals] using same))
    all_goals exact absurd same (by simp [equals])
  | object as =>
    cases b
    case object bs =>
      rw [equals, Bool.and_eq_true, beq_iff_eq] at same
      exact .object same.1 (matchEntries_iff.1 same.2)
    all_goals exact absurd same (by simp [equals])
  | null =>
    cases b
    case null => exact .plain rfl
    all_goals exact absurd same (by simp [equals])
  | bool x | int x | uint x | int128 x | uint128 x | text x | enum x | date x | time x
  | localDateTime x =>
    -- compared as they are, so only one variant is left for the other
    cases b <;> simp only [equals, beq_iff_eq, Bool.false_eq_true] at same
    obtain rfl := same
    exact .plain rfl

theorem equals_of_equated (equated : Equated a b) : a.equals b = true := by
  cases equated with
  | plain isPlain => cases a <;> simp_all [equals, Value.isPlain]
  | float same => simpa [equals] using same
  | number same => simpa [equals] using same
  | dateTime same => simpa [equals] using same
  | list items => simpa [equals, equalItems_iff] using items
  | object size found => simpa [equals, matchEntries_iff, size] using found

theorem equals_iff : a.equals b = true ↔ Equated a b :=
  ⟨equated_of_equals, equals_of_equated⟩

theorem equals_list_iff {as bs : List Value} : (list as).equals (list bs) = true ↔
    List.Forall₂ (fun a b => a.equals b = true) as bs := by
  rw [equals, equalItems_iff]

theorem equals_object_iff {as bs : List (String × Value)} (das : Entries.Distinct as)
    (dbs : Entries.Distinct bs) : (object as).equals (object bs) = true ↔
      Entries.Corresponds (fun a b => a.equals b = true) as bs := by
  rw [← Entries.corresponds_iff das dbs, equals, Bool.and_eq_true, beq_iff_eq, matchEntries_iff]

theorem equals_plain_iff (plain : a.isPlain = true) : a.equals b = true ↔ a = b := by
  rw [equals_iff]
  constructor
  · intro equated
    cases equated with
    | plain => rfl
    | _ => simp [isPlain] at plain
  · rintro rfl
    exact .plain plain

theorem ctorIdx_eq_of_equals (same : a.equals b = true) : a.ctorIdx = b.ctorIdx := by
  cases equals_iff.1 same <;> rfl

/-! ## What stands in a value -/

/-- What stands directly in a list or an object. -/
inductive Part : Value → Value → Prop where
  | item {items : List Value} {v : Value} (listed : v ∈ items) : Part v (.list items)
  | entry {entries : List (String × Value)} {key : String} {v : Value}
      (listed : (key, v) ∈ entries) : Part v (.object entries)

theorem Part.sizeOf_lt (part : Part v w) : sizeOf v < sizeOf w := by
  cases part with
  | item listed =>
    have below := List.sizeOf_lt_of_mem listed
    simp only [list.sizeOf_spec]
    omega
  | entry listed =>
    have below := List.sizeOf_lt_of_mem listed
    simp only [object.sizeOf_spec, Prod.mk.sizeOf_spec] at below ⊢
    omega

theorem parts_induction {motive : Value → Prop}
    (step : ∀ v, (∀ w, Part w v → motive w) → motive v) (v : Value) : motive v :=
  step v fun w _ => parts_induction step w
termination_by sizeOf v
decreasing_by exact Part.sizeOf_lt ‹_›

theorem allDistinct_iff {items : List Value} :
    AllDistinct items ↔ ∀ v ∈ items, v.KeysDistinct := by
  induction items with
  | nil => simp [AllDistinct]
  | cons item rest ih => rw [AllDistinct, ih, List.forall_mem_cons]

theorem KeysDistinct.part (distinct : v.KeysDistinct) (part : Part w v) : w.KeysDistinct := by
  cases part with
  | item listed => exact allDistinct_iff.1 distinct _ listed
  | entry listed => exact entriesDistinct_iff.1 distinct.2 _ listed

theorem Contains.of_part {u : Value} (part : Part v u) (inside : v.Contains w) : u.Contains w := by
  cases part with
  | item listed => exact .item listed inside
  | entry listed => exact .entry listed inside

/-! ## Symmetry and transitivity -/

theorem turn_items {R S : Value → Value → Prop} {as bs : List Value} (items : List.Forall₂ R as bs)
    (turn : ∀ a ∈ as, ∀ b ∈ bs, R a b → S b a) : List.Forall₂ S bs as := by
  induction items with
  | nil => exact .nil
  | cons head tail ih =>
    refine .cons (turn _ List.mem_cons_self _ List.mem_cons_self head) (ih fun a ha b hb => ?_)
    exact turn a (List.mem_cons_of_mem _ ha) b (List.mem_cons_of_mem _ hb)

theorem chain_items {R S T : Value → Value → Prop} {as bs cs : List Value}
    (first : List.Forall₂ R as bs) (second : List.Forall₂ S bs cs)
    (chain : ∀ a ∈ as, ∀ b c, R a b → S b c → T a c) : List.Forall₂ T as cs := by
  induction first generalizing cs with
  | nil =>
    cases second with
    | nil => exact .nil
  | cons head tail ih =>
    cases second with
    | cons head' tail' =>
      refine .cons (chain _ List.mem_cons_self _ _ head head') (ih tail' fun a ha => ?_)
      exact chain a (List.mem_cons_of_mem _ ha)

theorem equals_symm (da : a.KeysDistinct) (db : b.KeysDistinct) (same : a.equals b = true) :
    b.equals a = true := by
  induction a using parts_induction generalizing b with
  | step a ih =>
    cases equals_iff.1 same with
    | plain => exact same
    | float numbers => exact equals_iff.2 (.float (Binary64.equals_symm numbers))
    | number numbers => exact equals_iff.2 (.number (JsonNumber.equals_symm numbers))
    | dateTime instants =>
      obtain ⟨second, nanosecond⟩ := DateTime.sameInstant_iff.1 instants
      exact equals_iff.2 (.dateTime (DateTime.sameInstant_iff.2 ⟨second.symm, nanosecond.symm⟩))
    | list items =>
      refine equals_list_iff.2 (turn_items items fun x hx y hy => ?_)
      exact ih x (.item hx) (da.part (.item hx)) (db.part (.item hy))
    | object =>
      rw [equals_object_iff da.1 db.1] at same
      refine (equals_object_iff db.1 da.1).2 (same.symm fun key x y hx hy => ?_)
      exact ih x (.entry hx) (da.part (.entry hx)) (db.part (.entry hy))

theorem equals_comm (da : a.KeysDistinct) (db : b.KeysDistinct) : a.equals b = b.equals a := by
  rw [Bool.eq_iff_iff]
  exact ⟨equals_symm da db, equals_symm db da⟩

theorem equals_trans (first : a.equals b = true) (second : b.equals c = true) :
    a.equals c = true := by
  induction a using parts_induction generalizing b c with
  | step a ih =>
    cases equals_iff.1 first with
    | plain => exact second
    | float numbers =>
      cases equals_iff.1 second with
      | plain => exact first
      | float numbers' => exact equals_iff.2 (.float (Binary64.equals_trans numbers numbers'))
    | number numbers =>
      cases equals_iff.1 second with
      | plain => exact first
      | number numbers' => exact equals_iff.2 (.number (JsonNumber.equals_trans numbers numbers'))
    | dateTime instants =>
      cases equals_iff.1 second with
      | plain => exact first
      | dateTime instants' =>
        rw [DateTime.sameInstant_iff] at instants instants'
        exact equals_iff.2 (.dateTime (DateTime.sameInstant_iff.2
          ⟨instants.1.trans instants'.1, instants.2.trans instants'.2⟩))
    | list items =>
      cases equals_iff.1 second with
      | plain => exact first
      | list items' =>
        refine equals_list_iff.2 (chain_items items items' fun x hx y z => ?_)
        exact ih x (.item hx)
    | object size found =>
      cases equals_iff.1 second with
      | plain => exact first
      | object size' found' =>
        refine equals_iff.2 (.object (size.trans size') fun e mem => ?_)
        obtain ⟨y, lookup, same⟩ := found e mem
        obtain ⟨key, equal, listed⟩ := Entries.mem_of_lookup_eq_some lookup
        obtain rfl := eq_of_beq equal
        obtain ⟨z, lookup', same'⟩ := found' (e.1, y) listed
        exact ⟨z, lookup', ih e.2 (.entry mem) same same'⟩

/-! ## Equal to itself -/

theorem equals_self_of_contains (distinct : v.KeysDistinct) (same : v.equals v = true)
    (inside : v.Contains w) : w.equals w = true := by
  induction inside with
  | self => exact same
  | item listed inside ih =>
    have items := equals_list_iff.1 same
    exact ih (distinct.part (.item listed)) (List.forall₂_same.1 items _ listed)
  | entry listed inside ih =>
    have entries := (equals_object_iff distinct.1 distinct.1).1 same
    exact ih (distinct.part (.entry listed)) (entries.values _ _ _ listed listed)

theorem equals_self_iff (distinct : v.KeysDistinct) :
    v.equals v = true ↔ ∀ x, v.Contains (.float x) → x.isNaN = false := by
  constructor
  · intro same x inside
    have number := equals_self_of_contains distinct same inside
    rw [equals] at number
    exact Binary64.equals_self_iff.1 number
  · intro numbers
    induction v using parts_induction with
    | step v ih =>
      have parts : ∀ w, Part w v → w.equals w = true := fun w part =>
        ih w part (distinct.part part) fun x inside => numbers x (inside.of_part part)
      cases v with
      | float x => exact equals_iff.2 (.float (Binary64.equals_self_iff.2 (numbers x (.self _))))
      | number n => exact equals_iff.2 (.number n.equals_self)
      | dateTime dt => exact equals_iff.2 (.dateTime (DateTime.sameInstant_iff.2 ⟨rfl, rfl⟩))
      | list items =>
        refine equals_list_iff.2 (List.forall₂_same.2 fun item listed => ?_)
        exact parts item (.item listed)
      | object entries =>
        refine (equals_object_iff distinct.1 distinct.1).2 ⟨fun _ => Iff.rfl, ?_⟩
        intro key x y hx hy
        obtain rfl := distinct.1.eq_of_mem hx hy
        exact parts x (.entry hx)
      | _ => exact equals_iff.2 (.plain rfl)

end Value

end TypedQuery
