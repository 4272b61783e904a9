import TypedQuery.Proofs.Outcomes
import TypedQuery.Proofs.Text.Reading
import TypedQuery.Value.Literal

/-!
# `errors`, `spelling` — the literal of a value, put together from those of its parts

The writer appends to one buffer, puts its commas by position, and stops in the middle of a list
when an item has no literal. What comes of it is said here without a buffer: `errors` lists what is
wrong with a value in document order, a key before its value, and `spelling` is the text that the
literals of the parts make. The writer appends the spelling if nothing is wrong, and otherwise fails
with the first error (`write_eq`), along the recursion of the writer.

Hence **the literal of a list or an object is made of the literals of its parts**
(`literal_composes`), and a value has none exactly if it contains an offender.
-/

set_option autoImplicit false

namespace TypedQuery

open Outcome

/-- The year has four digits, and the offset is less than a day and in whole minutes. -/
def DateTime.HasInternetForm (dt : DateTime) : Prop :=
  (0 ≤ dt.localTime.date.year ∧ dt.localTime.date.year ≤ 9999) ∧
    dt.offset.seconds.natAbs < 86400 ∧ 60 ∣ dt.offset.seconds

theorem DateTime.internetText_fails_iff {dt : DateTime} :
    (∃ component, dt.internetText = .error component) ↔ ¬ dt.HasInternetForm := by
  have range := dt.localTime.date.year_range
  unfold internetText HasInternetForm Offset.hours Offset.secondsPart
  split
  · simp; omega
  · split
    · simp; omega
    · split
      · simp; omega
      · simp; omega

namespace Value

/-! ## Errors and text -/

/-- What is wrong with a value apart from what it contains. -/
def leafError? : Value → Option EncodeError
  | .float x => if x.isFinite then none else some .nonFiniteFloat
  | .enum name => if Text.isName name.toList then none else some (.invalidEnumName name)
  | .dateTime dt =>
    match dt.internetText with
    | .ok _ => none
    | .error component => some (.dateTime component)
  | _ => none

def keyError? (key : String) : Option EncodeError :=
  if Text.isName key.toList then none else some (.invalidObjectKey key)

mutual

/-- What is wrong with a value and what it contains, in document order. -/
def errors : Value → List EncodeError
  | .list items => itemErrors items
  | .object entries => entryErrors entries
  | leaf => leaf.leafError?.toList

def itemErrors : List Value → List EncodeError
  | [] => []
  | item :: rest => errors item ++ itemErrors rest

/-- A key comes before its value. -/
def entryErrors : List (String × Value) → List EncodeError
  | [] => []
  | (key, value) :: rest => (keyError? key).toList ++ errors value ++ entryErrors rest

end

/-- The text of a value that contains no others. -/
def leafSpelling : Value → List Char
  | .null => ['n', 'u', 'l', 'l']
  | .bool b => boolLiteral b
  | .int n => intLiteral n.toInt
  | .uint n => intLiteral n.toNat
  | .int128 n => intLiteral n.val
  | .uint128 n => intLiteral n.val
  | .float x => x.numeral
  | .number n => n.text
  | .text s => Text.quoted s.toList
  | .enum name => name.toList
  | .date d => inQuotes d.text
  | .time t => inQuotes t.text
  | .localDateTime dt => inQuotes dt.text
  | .dateTime dt => inQuotes (dt.localTime.text ++ dt.offset.text)
  | _ => []

mutual

/-- The text of a value in which nothing is wrong. -/
def spelling : Value → List Char
  | .list items => '[' :: Reader.joined ',' true (itemSpellings items) ++ [']']
  | .object entries => '\x7b' :: Reader.joined ',' true (entrySpellings entries) ++ ['\x7d']
  | leaf => leaf.leafSpelling

def itemSpellings : List Value → List (List Char)
  | [] => []
  | item :: rest => spelling item :: itemSpellings rest

def entrySpellings : List (String × Value) → List (List Char)
  | [] => []
  | (key, value) :: rest => (key.toList ++ ':' :: spelling value) :: entrySpellings rest

end

/-! ## The writer -/

theorem write_float (out : List Char) (x : Binary64) :
    write out (.float x) = okUnless (leafError? (.float x)).toList (out ++ x.numeral) := by
  rw [write, leafError?]
  cases x.isFinite <;> rfl

theorem write_enum (out : List Char) (name : String) :
    write out (.enum name) = okUnless (leafError? (.enum name)).toList (out ++ name.toList) := by
  rw [write, leafError?]
  cases Text.isName name.toList <;> rfl

theorem write_dateTime (out : List Char) (dt : DateTime) :
    write out (.dateTime dt) =
      okUnless (leafError? (.dateTime dt)).toList (out ++ leafSpelling (.dateTime dt)) := by
  rw [write, leafError?, leafSpelling]
  cases form : dt.internetText with
  | error component => rfl
  | ok text =>
    have whole : text = dt.localTime.text ++ dt.offset.text := by
      unfold DateTime.internetText at form
      split_ifs at form
      exact (Except.ok.inj form).symm
    rw [whole]
    rfl

-- The recursion is the writer's own: a value, the rest of a list, the rest of the entries. Only the
-- comma depends on the place, and `joined` takes the writer's flag for it.
mutual

/-- **The writer appends the spelling**, or fails with the first error. -/
theorem write_eq (out : List Char) : ∀ v : Value,
    v.write out = okUnless v.errors (out ++ v.spelling)
  | .list items => by
    unfold write errors spelling
    rw [writeItems_eq]
    refine (okUnless_bind ?_).trans (congrArg (okUnless · _) (List.append_nil _))
    simp [okUnless]
  | .object entries => by
    unfold write errors spelling
    rw [writeEntries_eq]
    refine (okUnless_bind ?_).trans (congrArg (okUnless · _) (List.append_nil _))
    simp [okUnless]
  | .float x => write_float out x
  | .enum name => write_enum out name
  | .dateTime dt => write_dateTime out dt
  | .null => rfl
  | .bool b => rfl
  | .int n => rfl
  | .uint n => rfl
  | .int128 n => rfl
  | .uint128 n => rfl
  | .number n => rfl
  | .text s => rfl
  | .date d => rfl
  | .time t => rfl
  | .localDateTime dt => rfl

theorem writeItems_eq (out : List Char) (first : Bool) : ∀ items : List Value,
    writeItems out first items =
      okUnless (itemErrors items) (out ++ Reader.joined ',' first (itemSpellings items))
  | [] => by
    rw [writeItems, itemSpellings, Reader.joined, List.append_nil]
    rfl
  | item :: rest => by
    rw [writeItems, write_eq _ item, itemErrors]
    refine okUnless_bind ?_
    rw [writeItems_eq _ false rest, itemSpellings, Reader.joined]
    cases first <;> simp

theorem writeEntries_eq (out : List Char) (first : Bool) : ∀ entries : List (String × Value),
    writeEntries out first entries =
      okUnless (entryErrors entries) (out ++ Reader.joined ',' first (entrySpellings entries))
  | [] => by
    rw [writeEntries, entrySpellings, Reader.joined, List.append_nil]
    rfl
  | (key, value) :: rest => by
    rw [writeEntries, entryErrors, keyError?]
    split
    · rw [write_eq _ value]
      refine okUnless_bind ?_
      rw [writeEntries_eq _ false rest, entrySpellings, Reader.joined]
      cases first <;> simp
    · rfl

end

theorem literal_eq (v : Value) : v.literal = okUnless v.errors (String.ofList v.spelling) := by
  rw [literal, write_eq, map_okUnless, List.nil_append]

theorem literal_eq_ok_iff {v : Value} {text : String} :
    v.literal = .ok text ↔ v.errors = [] ∧ String.ofList v.spelling = text := by
  rw [literal_eq, okUnless_eq_ok_iff]

/-! ## Offenders -/

/-- The second value is the first, or stands in it at some depth. -/
inductive Contains : Value → Value → Prop where
  | self (v : Value) : Contains v v
  | item {items : List Value} {v w : Value} (listed : v ∈ items) (inside : Contains v w) :
      Contains (.list items) w
  | entry {entries : List (String × Value)} {key : String} {v w : Value}
      (listed : (key, v) ∈ entries) (inside : Contains v w) : Contains (.object entries) w

/-- The value has no literal for a reason of its own. -/
inductive Offends : Value → EncodeError → Prop where
  | float {x : Binary64} (infinite : x.isFinite = false) : Offends (.float x) .nonFiniteFloat
  | enum {name : String} (noName : Text.isName name.toList = false) :
      Offends (.enum name) (.invalidEnumName name)
  | key {entries : List (String × Value)} {key : String} {v : Value} (listed : (key, v) ∈ entries)
      (noName : Text.isName key.toList = false) :
      Offends (.object entries) (.invalidObjectKey key)
  | dateTime {dt : DateTime} {component : DateTime.Component}
      (misfit : dt.internetText = .error component) : Offends (.dateTime dt) (.dateTime component)

theorem offends_dateTime_iff {dt : DateTime} :
    (∃ e, Offends (.dateTime dt) e) ↔ ¬ dt.HasInternetForm := by
  rw [← DateTime.internetText_fails_iff]
  constructor
  · rintro ⟨e, offends⟩
    cases offends with
    | dateTime misfit => exact ⟨_, misfit⟩
  · rintro ⟨component, misfit⟩
    exact ⟨_, .dateTime misfit⟩

theorem itemErrors_eq (items : List Value) : itemErrors items = items.flatMap errors := by
  induction items with
  | nil => rfl
  | cons item rest ih => rw [itemErrors, ih, List.flatMap_cons]

theorem entryErrors_eq (entries : List (String × Value)) :
    entryErrors entries = entries.flatMap fun p => (keyError? p.1).toList ++ p.2.errors := by
  induction entries with
  | nil => rfl
  | cons p rest ih => rw [entryErrors, ih, List.flatMap_cons]

theorem mem_keyError?_iff {key : String} {e : EncodeError} :
    e ∈ (keyError? key).toList ↔ Text.isName key.toList = false ∧ e = .invalidObjectKey key := by
  unfold keyError?
  cases Text.isName key.toList <;> simp

theorem offends_of_mem_leafError? {v : Value} {e : EncodeError} (wrong : e ∈ v.leafError?.toList) :
    v.Offends e := by
  cases v with
  | float x =>
    cases finite : x.isFinite with
    | true => simp [leafError?, finite] at wrong
    | false =>
      obtain rfl : e = .nonFiniteFloat := by simpa [leafError?, finite] using wrong
      exact .float finite
  | enum name =>
    cases isName : Text.isName name.toList with
    | true => simp [leafError?, isName] at wrong
    | false =>
      obtain rfl : e = .invalidEnumName name := by simpa [leafError?, isName] using wrong
      exact .enum isName
  | dateTime dt =>
    cases form : dt.internetText with
    | ok text => simp [leafError?, form] at wrong
    | error component =>
      obtain rfl : e = .dateTime component := by simpa [leafError?, form] using wrong
      exact .dateTime form
  | _ => exact absurd wrong List.not_mem_nil

mutual

theorem exists_offender {e : EncodeError} : ∀ v : Value, e ∈ v.errors →
    ∃ w, v.Contains w ∧ w.Offends e
  | .list items, wrong => by
    obtain ⟨item, listed, w, inside, offends⟩ := exists_offender_of_items items wrong
    exact ⟨w, .item listed inside, offends⟩
  | .object entries, wrong => by
    obtain ⟨key, v, listed, atKey | ⟨w, inside, offends⟩⟩ :=
      exists_offender_of_entries entries wrong
    · obtain ⟨noName, rfl⟩ := mem_keyError?_iff.1 atKey
      exact ⟨_, .self _, .key listed noName⟩
    · exact ⟨w, .entry listed inside, offends⟩
  | .float x, wrong => ⟨_, .self _, offends_of_mem_leafError? wrong⟩
  | .enum name, wrong => ⟨_, .self _, offends_of_mem_leafError? wrong⟩
  | .dateTime dt, wrong => ⟨_, .self _, offends_of_mem_leafError? wrong⟩
  | .null, wrong => absurd wrong List.not_mem_nil
  | .bool b, wrong => absurd wrong List.not_mem_nil
  | .int n, wrong => absurd wrong List.not_mem_nil
  | .uint n, wrong => absurd wrong List.not_mem_nil
  | .int128 n, wrong => absurd wrong List.not_mem_nil
  | .uint128 n, wrong => absurd wrong List.not_mem_nil
  | .number n, wrong => absurd wrong List.not_mem_nil
  | .text s, wrong => absurd wrong List.not_mem_nil
  | .date d, wrong => absurd wrong List.not_mem_nil
  | .time t, wrong => absurd wrong List.not_mem_nil
  | .localDateTime dt, wrong => absurd wrong List.not_mem_nil

theorem exists_offender_of_items {e : EncodeError} : ∀ items : List Value,
    e ∈ itemErrors items → ∃ item ∈ items, ∃ w, item.Contains w ∧ w.Offends e
  | [], wrong => absurd wrong List.not_mem_nil
  | item :: rest, wrong => by
    rcases List.mem_append.1 wrong with here | below
    · exact ⟨item, List.mem_cons_self, exists_offender item here⟩
    · obtain ⟨other, listed, found⟩ := exists_offender_of_items rest below
      exact ⟨other, List.mem_cons_of_mem _ listed, found⟩

theorem exists_offender_of_entries {e : EncodeError} : ∀ entries : List (String × Value),
    e ∈ entryErrors entries → ∃ key v, (key, v) ∈ entries ∧
      (e ∈ (keyError? key).toList ∨ ∃ w, v.Contains w ∧ w.Offends e)
  | [], wrong => absurd wrong List.not_mem_nil
  | (key, value) :: rest, wrong => by
    rcases List.mem_append.1 wrong with here | below
    · refine ⟨key, value, List.mem_cons_self, ?_⟩
      exact (List.mem_append.1 here).imp_right (exists_offender value)
    · obtain ⟨key', v, listed, found⟩ := exists_offender_of_entries rest below
      exact ⟨key', v, List.mem_cons_of_mem _ listed, found⟩

end

/-- **What is listed as wrong are the reasons of the offenders**, at any depth. -/
theorem mem_errors_iff {v : Value} {e : EncodeError} :
    e ∈ v.errors ↔ ∃ w, v.Contains w ∧ w.Offends e := by
  refine ⟨exists_offender v, ?_⟩
  rintro ⟨w, inside, offends⟩
  -- from the offender outwards: each level keeps the errors of what stands in it
  induction inside with
  | self v =>
    cases offends with
    | float infinite => simp [errors, leafError?, infinite]
    | enum noName => simp [errors, leafError?, noName]
    | dateTime misfit => simp [errors, leafError?, misfit]
    | key listed noName =>
      rw [errors, entryErrors_eq]
      refine List.mem_flatMap.2 ⟨_, listed, List.mem_append_left _ ?_⟩
      exact mem_keyError?_iff.2 ⟨noName, rfl⟩
  | item listed inside ih =>
    rw [errors, itemErrors_eq]
    exact List.mem_flatMap.2 ⟨_, listed, ih offends⟩
  | entry listed inside ih =>
    rw [errors, entryErrors_eq]
    exact List.mem_flatMap.2 ⟨_, listed, List.mem_append_right _ (ih offends)⟩

/-! ## Lists and objects -/

theorem itemSpellings_eq (items : List Value) : itemSpellings items = items.map spelling := by
  induction items with
  | nil => rfl
  | cons item rest ih => rw [itemSpellings, ih, List.map_cons]

theorem entrySpellings_eq (entries : List (String × Value)) :
    entrySpellings entries = entries.map fun p => p.1.toList ++ ':' :: p.2.spelling := by
  induction entries with
  | nil => rfl
  | cons p rest ih => rw [entrySpellings, ih, List.map_cons]

theorem literal_list (items : List Value) :
    (list items).literal =
      (items.mapM literal).map fun texts => "[" ++ ",".intercalate texts ++ "]" := by
  rw [mapM_okUnless fun item _ => literal_eq item, map_okUnless, literal_eq, errors, spelling,
    itemErrors_eq, itemSpellings_eq]
  refine congrArg (okUnless _) (String.toList_inj.1 ?_)
  simp [String.toList_intercalate, Reader.joined_eq_intercalate, Function.comp_def]

/-- The literal of an entry: its key, which has to be a name, and the literal of its value. -/
def entryLiteral (entry : String × Value) : Except EncodeError String :=
  if Text.isName entry.1.toList then entry.2.literal.map fun text => entry.1 ++ ":" ++ text
  else .error (.invalidObjectKey entry.1)

theorem entryLiteral_eq (entry : String × Value) :
    entryLiteral entry = okUnless ((keyError? entry.1).toList ++ entry.2.errors)
      (entry.1 ++ ":" ++ String.ofList entry.2.spelling) := by
  unfold entryLiteral keyError?
  rw [literal_eq, map_okUnless]
  cases Text.isName entry.1.toList <;> rfl

theorem literal_object (entries : List (String × Value)) :
    (object entries).literal =
      (entries.mapM entryLiteral).map fun texts => "\x7b" ++ ",".intercalate texts ++ "\x7d" := by
  rw [mapM_okUnless fun entry _ => entryLiteral_eq entry, map_okUnless, literal_eq, errors,
    spelling, entryErrors_eq, entrySpellings_eq]
  refine congrArg (okUnless _) (String.toList_inj.1 ?_)
  simp [String.toList_intercalate, Reader.joined_eq_intercalate, Function.comp_def]

theorem write_eq_literal (v : Value) (out : List Char) :
    v.write out = v.literal.map fun text => out ++ text.toList := by
  rw [write_eq, literal_eq, map_okUnless, String.toList_ofList]

/-- **The writer is compositional, with exact errors.** Whatever is written already, the writer
    appends the literal of the value or fails as it does. The literal

    * of a list are the literals of its items, in brackets with commas between them; of an object
      those of its entries, key, colon and value, in braces, in the order of the entries; of any
      other value its own. Each stands for the first of its parts that has none, if one has none;
    * fails exactly if the value contains an offender: a float that is not finite, an enum or an
      object with a key that is no name, or a date-time that has no internet form;
    * fails then for what is wrong first in document order, and what is wrong in document order are
      the reasons of the offenders. -/
theorem literal_composes (v : Value) :
    (∀ out, v.write out = v.literal.map fun text => out ++ text.toList) ∧
    (match v with
      | .list items => (list items).literal =
          (items.mapM literal).map fun texts => "[" ++ ",".intercalate texts ++ "]"
      | .object entries => (object entries).literal =
          (entries.mapM entryLiteral).map fun texts => "\x7b" ++ ",".intercalate texts ++ "\x7d"
      | leaf => leaf.literal =
          okUnless leaf.leafError?.toList (String.ofList leaf.leafSpelling)) ∧
    ((∃ e, v.literal = .error e) ↔ ∃ w e, v.Contains w ∧ w.Offends e) ∧
    (∀ e, v.literal = .error e ↔ v.errors.head? = some e) ∧
    (∀ e, e ∈ v.errors ↔ ∃ w, v.Contains w ∧ w.Offends e) ∧
    (∀ dt, (∃ e, Offends (.dateTime dt) e) ↔ ¬ dt.HasInternetForm) := by
  have failed : ∀ e, v.literal = .error e ↔ v.errors.head? = some e := by
    intro e
    rw [literal_eq, okUnless_eq_error_iff]
  refine ⟨v.write_eq_literal, ?_, ?_, failed, fun e => mem_errors_iff,
    fun dt => offends_dateTime_iff⟩
  · cases v with
    | list items => exact literal_list items
    | object entries => exact literal_object entries
    | _ => exact literal_eq _
  · simp only [failed]
    constructor
    · rintro ⟨e, first⟩
      obtain ⟨w, inside, offends⟩ := mem_errors_iff.1 (List.mem_of_head? first)
      exact ⟨w, e, inside, offends⟩
    · rintro ⟨w, e, inside, offends⟩
      have wrong : v.errors ≠ [] := List.ne_nil_of_mem (mem_errors_iff.2 ⟨w, inside, offends⟩)
      exact ⟨_, List.head?_eq_some_head wrong⟩

end Value

end TypedQuery
