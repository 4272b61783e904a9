import TypedQuery.Proofs.Json.Keys
import TypedQuery.Proofs.Literal.Composition
import TypedQuery.Proofs.Literal.Keys
import TypedQuery.Proofs.Literal.Numbers
import TypedQuery.Proofs.Text.Quoting

/-!
# `bareKeys` — the literal of a document is its text with bare keys

A document has a text of its own, the compact one: no white space, and keys quoted like any other
string. `bareKeys` takes that text and knows nothing of documents. It looks for strings, and leaves out
the quotes of those that a colon follows; in a compact text these are the keys.

The scan of a text in which strings are complete leaves the rest of the text as it would have been
alone, unless a colon follows (`Bares`). This is carried from the leaves to lists and objects, along the
document; what the writer makes of the value of the document is on the other side all the time
(`bares_compact`).
-/

set_option autoImplicit false

namespace TypedQuery.Json

open Outcome

/-! ## The compact text -/

namespace Document

mutual

/-- The compact text of a document. -/
def compact : Document → List Char
  | .null => "null".toList
  | .bool b => (toString b).toList
  | .number n => n.text
  | .string s => Text.quoted s.toList
  | .array items => '[' :: [','].intercalate (itemTexts items) ++ [']']
  | .object entries => '\x7b' :: [','].intercalate (entryTexts entries) ++ ['\x7d']

def itemTexts : List Document → List (List Char)
  | [] => []
  | item :: rest => compact item :: itemTexts rest

def entryTexts : List (String × Document) → List (List Char)
  | [] => []
  | (key, item) :: rest => (Text.quoted key.toList ++ ':' :: compact item) :: entryTexts rest

end

end Document

/-! ## Bare keys -/

/-- Leaves out the quotes of strings that a colon follows. Within a string, `held` is what was read of
    it behind its opening quote. -/
def unquoteKeys : Option (List Char) → List Char → List Char
  | none, [] => []
  | none, c :: rest => if c = '"' then unquoteKeys (some []) rest else c :: unquoteKeys none rest
  | some held, [] => '"' :: held
  | some held, c :: rest =>
    if c = '\\' then
      match rest with
      | [] => '"' :: held ++ [c]
      | d :: rest => unquoteKeys (some (held ++ [c, d])) rest
    else if c = '"' then
      (if rest.head? = some ':' then held else '"' :: held ++ ['"']) ++ unquoteKeys none rest
    else unquoteKeys (some (held ++ [c])) rest

/-- The text with the quotes around object keys removed. -/
def bareKeys (text : List Char) : List Char := unquoteKeys none text

/-- Scanning the first text gives the second, and then whatever the scan gives of the rest. -/
def Bares (text bare : List Char) : Prop :=
  ∀ rest, rest.head? ≠ some ':' → bareKeys (text ++ rest) = bare ++ bareKeys rest

section Scan

variable {c : Char} {held cs rest : List Char}

theorem unquoteKeys_shown (noSolidus : c ≠ '\\') (noQuote : c ≠ '"') :
    unquoteKeys (some held) (c :: rest) = unquoteKeys (some (held ++ [c])) rest := by
  rw [unquoteKeys.eq_def]
  simp [noSolidus, noQuote]

theorem unquoteKeys_solidus :
    unquoteKeys (some held) ('\\' :: c :: rest) = unquoteKeys (some (held ++ ['\\', c])) rest := by
  rw [unquoteKeys.eq_def]
  simp

theorem digitChar_shown : ∀ n < 16, Nat.digitChar n ≠ '\\' ∧ Nat.digitChar n ≠ '"' := by decide

theorem unquoteKeys_escaped (c : Char) :
    unquoteKeys (some held) (Text.escaped c ++ rest) =
      unquoteKeys (some (held ++ Text.escaped c)) rest := by
  rcases Text.escaped_cases c with ⟨letter, -, form⟩ | ⟨control, form⟩ | ⟨short, -, form⟩
  · rw [form]
    exact unquoteKeys_solidus
  · -- `\u00` and two hexadecimal digits, which the scan takes for characters of the string
    obtain ⟨high, high'⟩ := digitChar_shown (c.toNat / 16) (by omega)
    obtain ⟨low, low'⟩ := digitChar_shown (c.toNat % 16) (by omega)
    have zero : '0' ≠ '\\' ∧ '0' ≠ '"' := by decide
    rw [form]
    simp only [List.cons_append, List.nil_append]
    rw [unquoteKeys_solidus, unquoteKeys_shown zero.1 zero.2, unquoteKeys_shown zero.1 zero.2,
      unquoteKeys_shown high high', unquoteKeys_shown low low']
    simp
  · have noSolidus : c ≠ '\\' := by
      rintro rfl
      exact absurd short (by decide)
    have noQuote : c ≠ '"' := by
      rintro rfl
      exact absurd short (by decide)
    rw [form]
    exact unquoteKeys_shown noSolidus noQuote

theorem unquoteKeys_flatMap_escaped (cs : List Char) :
    unquoteKeys (some held) (cs.flatMap Text.escaped ++ rest) =
      unquoteKeys (some (held ++ cs.flatMap Text.escaped)) rest := by
  induction cs generalizing held with
  | nil => simp
  | cons c cs ih =>
    rw [List.flatMap_cons, List.append_assoc, unquoteKeys_escaped, ih, List.append_assoc]

theorem bareKeys_quoted (cs rest : List Char) :
    bareKeys (Text.quoted cs ++ rest) =
      (if rest.head? = some ':' then cs.flatMap Text.escaped else Text.quoted cs) ++
        bareKeys rest := by
  have opened : bareKeys (Text.quoted cs ++ rest) =
      unquoteKeys (some []) (cs.flatMap Text.escaped ++ '"' :: rest) := by
    simp [bareKeys, Text.quoted, unquoteKeys]
  rw [opened, unquoteKeys_flatMap_escaped, unquoteKeys.eq_def]
  simp [Text.quoted, bareKeys]

end Scan

/-! ## Pieces of a text -/

theorem bareKeys_cons {c : Char} (noQuote : c ≠ '"') (rest : List Char) :
    bareKeys (c :: rest) = c :: bareKeys rest := by
  simp [bareKeys, unquoteKeys, noQuote]

theorem bares_of_plain {text : List Char} (plain : '"' ∉ text) : Bares text text := by
  intro rest _
  induction text with
  | nil => rfl
  | cons c text ih =>
    have here : c ≠ '"' := (List.ne_of_not_mem_cons plain).symm
    have below : '"' ∉ text := List.not_mem_of_not_mem_cons plain
    rw [List.cons_append, bareKeys_cons here, ih below, List.cons_append]

theorem bares_quoted (cs : List Char) : Bares (Text.quoted cs) (Text.quoted cs) := by
  intro rest noColon
  rw [bareKeys_quoted, if_neg noColon]

theorem Bares.enclosed {text bare : List Char} (h : Bares text bare) {opening closing : Char}
    (noQuote : opening ≠ '"') (closes : closing ≠ '"' ∧ closing ≠ ':') :
    Bares (opening :: text ++ [closing]) (opening :: bare ++ [closing]) := by
  intro rest _
  have inside := h (closing :: rest) (by simpa using closes.2)
  rw [bareKeys_cons closes.1] at inside
  simp [bareKeys_cons noQuote, inside]

theorem bares_joined {texts bares : List (List Char)} (items : List.Forall₂ Bares texts bares)
    (opening : Bool) : Bares (Reader.joined ',' opening texts) (Reader.joined ',' opening bares) := by
  induction items generalizing opening with
  | nil => exact bares_of_plain List.not_mem_nil
  | @cons text bare texts bares first _ ih =>
    intro rest noColon
    -- behind this item stands the comma of the next one, or what stands behind the list
    have apart : (Reader.joined ',' false texts ++ rest).head? ≠ some ':' := by
      cases texts with
      | nil => exact noColon
      | cons next texts => simp [Reader.joined]
    have here := first _ apart
    rw [ih false rest noColon] at here
    cases opening with
    | true => simp [Reader.joined, here]
    | false => simp [Reader.joined, bareKeys_cons, here]

theorem bares_intercalate {texts bares : List (List Char)} (items : List.Forall₂ Bares texts bares) :
    Bares ([','].intercalate texts) (Reader.joined ',' true bares) := by
  rw [← Reader.joined_eq_intercalate]
  exact bares_joined items true

/-! ## Names, numbers -/

theorem escaped_of_isNameContinue {c : Char} (continues : Text.isNameContinue c = true) :
    Text.escaped c = [c] := by
  have apart : ∀ d, Text.isNameContinue d = false → c ≠ d := by
    intro d outside same
    rw [same, outside] at continues
    exact absurd continues Bool.false_ne_true
  refine Text.escaped_of_shown (apart '"' rfl) (apart '\\' rfl) ?_
  simp only [Text.isNameContinue, Char.isAlphanum, Bool.or_eq_true, beq_iff_eq] at continues
  rcases continues with rfl | letter | digit
  · decide
  · have := Text.toNat_of_isAlpha letter
    omega
  · have := Text.toNat_of_isDigit digit
    omega

theorem bares_entry {key : String} (isName : Text.isName key.toList = true) {text bare : List Char}
    (value : Bares text bare) :
    Bares (Text.quoted key.toList ++ ':' :: text) (key.toList ++ ':' :: bare) := by
  intro rest noColon
  -- no character of a name is escaped, so without the quotes the key stands there as it is
  have itself : key.toList.flatMap Text.escaped = key.toList := by
    have continues := List.all_eq_true.1 (Text.all_isNameContinue_of_isName isName)
    have plain : ∀ c ∈ key.toList, Text.escaped c = [c] :=
      fun c mem => escaped_of_isNameContinue (continues c mem)
    rw [List.flatMap_def, List.map_congr_left plain, ← List.flatMap_def, List.flatMap_singleton']
  rw [List.append_assoc, List.cons_append, bareKeys_quoted, List.head?_cons, if_pos rfl, itself,
    bareKeys_cons (by decide), value rest noColon]
  simp

theorem bares_number (n : JsonNumber) : Bares n.text n.text := by
  refine bares_of_plain ?_
  intro quote
  exact absurd (n.numberToken_text.chars _ quote) (by decide)

namespace Document

/-! ## The value of a document -/

theorem keys_toEntries (entries : List (String × Document)) :
    Entries.keys (toEntries entries) = Entries.keys entries := by
  induction entries with
  | nil => rfl
  | cons e rest ih => exact congrArg (e.1 :: ·) ih

theorem toValue_object {entries : List (String × Document)} (distinct : Entries.Distinct entries) :
    (object entries).toValue = .object (toEntries entries) := by
  refine Value.ofEntries_of_distinct ?_
  unfold Entries.Distinct
  rw [keys_toEntries]
  exact distinct

/-- The keys that are no names. -/
def offending (keys : List String) : List String := keys.filter fun key => !Text.isName key.toList

theorem offending_cons (key : String) (rest : List String) :
    (offending (key :: rest)).map EncodeError.invalidObjectKey =
      (Value.keyError? key).toList ++ (offending rest).map EncodeError.invalidObjectKey := by
  unfold offending Value.keyError?
  cases isName : Text.isName key.toList <;> simp [isName]

theorem offending_append (keys others : List String) :
    offending (keys ++ others) = offending keys ++ offending others := List.filter_append ..

mutual

/-- **What is wrong with the value of a document are its keys that are no names**, in order. -/
theorem errors_toValue : ∀ j : Document, j.KeysDistinct →
    j.toValue.errors = (offending j.keys).map EncodeError.invalidObjectKey
  | .array items, distinct => itemErrors_toValues items distinct
  | .object entries, ⟨keys, values⟩ => by
    rw [toValue_object keys]
    exact entryErrors_toEntries entries values
  | .null, _ => rfl
  | .bool b, _ => rfl
  | .number n, _ => rfl
  | .string s, _ => rfl

theorem itemErrors_toValues : ∀ items : List Document, AllDistinct items →
    Value.itemErrors (toValues items) = (offending (itemKeys items)).map EncodeError.invalidObjectKey
  | [], _ => rfl
  | item :: rest, ⟨first, others⟩ => by
    rw [toValues, Value.itemErrors, errors_toValue item first, itemErrors_toValues rest others,
      itemKeys, offending_append, List.map_append]

theorem entryErrors_toEntries : ∀ entries : List (String × Document), EntriesDistinct entries →
    Value.entryErrors (toEntries entries) =
      (offending (entryKeys entries)).map EncodeError.invalidObjectKey
  | [], _ => rfl
  | (key, item) :: rest, ⟨first, others⟩ => by
    rw [toEntries, Value.entryErrors, errors_toValue item first, entryErrors_toEntries rest others,
      entryKeys, List.cons_append, offending_cons, offending_append, List.map_append,
      List.append_assoc]

end

mutual

/-- **The compact text with bare keys is what is written of the value**, if the keys are names. -/
theorem bares_compact : ∀ j : Document, j.KeysDistinct → (offending j.keys = []) →
    Bares j.compact j.toValue.spelling
  | .array items, distinct, named =>
    (bares_intercalate (bares_items items distinct named)).enclosed (by decide) (by decide)
  | .object entries, ⟨keys, values⟩, named => by
    rw [toValue_object keys]
    exact (bares_intercalate (bares_entries entries values named)).enclosed (by decide) (by decide)
  | .null, _, _ => bares_of_plain (by decide)
  | .bool true, _, _ => bares_of_plain (by decide)
  | .bool false, _, _ => bares_of_plain (by decide)
  | .number n, _, _ => bares_number n
  | .string s, _, _ => bares_quoted s.toList

theorem bares_items : ∀ items : List Document, AllDistinct items → offending (itemKeys items) = [] →
    List.Forall₂ Bares (itemTexts items) (Value.itemSpellings (toValues items))
  | [], _, _ => .nil
  | item :: rest, ⟨first, others⟩, named => by
    rw [itemKeys, offending_append, List.append_eq_nil_iff] at named
    exact .cons (bares_compact item first named.1) (bares_items rest others named.2)

theorem bares_entries : ∀ entries : List (String × Document), EntriesDistinct entries →
    offending (entryKeys entries) = [] →
      List.Forall₂ Bares (entryTexts entries) (Value.entrySpellings (toEntries entries))
  | [], _, _ => .nil
  | (key, item) :: rest, ⟨first, others⟩, named => by
    obtain ⟨isName, below⟩ := List.forall_mem_cons.1 (List.filter_eq_nil_iff.1 named)
    obtain ⟨inside, later⟩ := List.forall_mem_append.1 below
    refine .cons (bares_entry (by simpa using isName) ?_) ?_
    · exact bares_compact item first (List.filter_eq_nil_iff.2 inside)
    · exact bares_entries rest others (List.filter_eq_nil_iff.2 later)

end

/-- **A document as a parameter is the same document with bare keys.** The value of a document has a
    literal exactly if every key in it, at any depth, is a name. The literal is then the compact text of
    the document with the quotes around its keys removed, and otherwise the first key in document order
    that is no name is refused. -/
theorem literal_toValue {j : Document} (distinct : j.KeysDistinct) :
    ((∃ text, j.toValue.literal = .ok text) ↔ ∀ key ∈ j.keys, Text.isName key.toList = true) ∧
    (∀ text, j.toValue.literal = .ok text → text = String.ofList (bareKeys j.compact)) ∧
    (∀ e, j.toValue.literal = .error e ↔
      ∃ key, j.keys.find? (fun key => !Text.isName key.toList) = some key ∧
        e = .invalidObjectKey key) := by
  have named : offending j.keys = [] ↔ ∀ key ∈ j.keys, Text.isName key.toList = true := by
    simp [offending]
  have written : j.toValue.literal = okUnless
      ((offending j.keys).map EncodeError.invalidObjectKey) (String.ofList j.toValue.spelling) := by
    rw [Value.literal_eq, errors_toValue j distinct]
  rw [written]
  refine ⟨?_, ?_, ?_⟩
  · simp [okUnless_eq_ok_iff, named]
  · intro text encoded
    obtain ⟨nothing, rfl⟩ := okUnless_eq_ok_iff.1 encoded
    have bare := bares_compact j distinct (List.map_eq_nil_iff.1 nothing) [] nofun
    rw [List.append_nil, show bareKeys [] = [] from rfl, List.append_nil] at bare
    rw [bare]
  · intro e
    rw [okUnless_eq_error_iff, List.head?_map, offending, List.head?_filter,
      Option.map_eq_some_iff]
    simp only [eq_comm]

/-- Keys that are names, and a string that looks like an entry. -/
def shipment : Document :=
  .object [("_id", .number (.natural 7)), ("lines", .array [.string "\"n\":\\", .object []]),
    ("to", .object [("until", .null), ("urgent", .bool true)])]

/-- Two keys that are no names, the first of them inside the value of a name. -/
def misnamed : Document :=
  .object [("a", .array [.object [("b-c", .null)]]), ("d e", .bool false)]

theorem literal_shipment_misnamed :
    shipment.KeysDistinct ∧ misnamed.KeysDistinct ∧
      shipment.toValue.literal =
        .ok "\x7b_id:7,lines:[\"\\\"n\\\":\\\\\",\x7b\x7d],to:\x7buntil:null,urgent:true\x7d\x7d" ∧
      misnamed.toValue.literal = .error (.invalidObjectKey "b-c") := by
  have read : ofText ("\x7b\"to\":\x7b\"urgent\":true,\"until\":null\x7d,\"_id\":1," ++
      "\"lines\": [\"\\u0022n\\\":\\\\\", \x7b\x7d], \"_id\":7\x7d") = .ok shipment := by rfl
  have distinct : shipment.KeysDistinct := keysDistinct_of_ofText read
  have distinct' : misnamed.KeysDistinct := by
    simp [misnamed, KeysDistinct, AllDistinct, EntriesDistinct, Entries.Distinct, Entries.keys]
  have names : ∀ key ∈ shipment.keys, Text.isName key.toList = true := by decide
  obtain ⟨text, encoded⟩ := (literal_toValue distinct).1.2 names
  have bare : String.ofList (bareKeys shipment.compact) =
      "\x7b_id:7,lines:[\"\\\"n\\\":\\\\\",\x7b\x7d],to:\x7buntil:null,urgent:true\x7d\x7d" := by decide +kernel
  have whole := (literal_toValue distinct).2.1 text encoded
  rw [whole, bare] at encoded
  have first : misnamed.keys.find? (fun key => !Text.isName key.toList) = some "b-c" := by decide
  exact ⟨distinct, distinct', encoded, ((literal_toValue distinct').2.2 _).2 ⟨"b-c", first, rfl⟩⟩

end Document

end TypedQuery.Json
