import TypedQuery.Proofs.Literal.Clock
import TypedQuery.Proofs.Literal.Keys
import TypedQuery.Proofs.Outcomes

/-!
# `spells_literal` — the literal of a value is read back

`Spells` is what one literal, alone or inside others, has to satisfy: at any depth that its length
allows it is read as what it says, **whatever may follow a literal**, and it does not open with a
character that may follow one. The second half is for the list reader, which takes a closing bracket
for the end of the list.

There is one `spells_` lemma for each kind of literal, and `spells_of_write` puts them together
along the writer. The writer appends to what is written already, so the statements about a value, the
items of a list and the entries of an object are statements about the text that is appended.
-/

set_option autoImplicit false

namespace TypedQuery

open Literal Reader

namespace Literal

/-- The text is a literal that says this. -/
structure Spells (text : List Char) (l : Literal) : Prop where
  reads : ∀ depth, text.length ≤ depth → (readWithin depth).Reads ends text l
  opens : Opens (· ∉ ends) text

theorem Spells.opens_ne {text : List Char} {l : Literal} (h : Spells text l) {close : Char}
    (isEnd : close ∈ ends) : Opens (· ≠ close) text :=
  h.opens.mono fun _ noEnd same => noEnd (same ▸ isEnd)

/-! ## One kind of literal after the other -/

theorem spells_word {name : String} (isName : Text.isName name.toList = true) :
    Spells name.toList (.word name) := by
  obtain ⟨c, cs, chars⟩ : ∃ c cs, name.toList = c :: cs := by
    cases chars : name.toList with
    | nil =>
      rw [chars] at isName
      exact absurd isName Bool.false_ne_true
    | cons c cs => exact ⟨c, cs, rfl⟩
  have start : Text.isNameStart c = true := by
    rw [chars] at isName
    exact (Bool.and_eq_true_iff.1 isName).1
  have apart : ∀ d, Text.isNameStart d = false → c ≠ d := by
    rintro d notStart rfl
    exact absurd start (Bool.eq_false_iff.1 notStart)
  refine ⟨fun depth enough rest follows => ?_, ⟨c, by rw [chars]; rfl, ?_⟩⟩
  · have whole : Reader.name (c :: (cs ++ rest)) = some (name, rest) := by
      rw [← List.cons_append, ← chars]
      exact name_append isName (follows.stops (by decide))
    rw [chars] at enough ⊢
    obtain ⟨depth, rfl⟩ := Nat.exists_eq_add_of_le' enough
    show readWithin (depth + cs.length + 1) (c :: (cs ++ rest)) = _
    rw [readWithin, if_neg (apart '[' rfl), if_neg (apart '\x7b' rfl), if_neg (apart '"' rfl),
      if_pos start, whole]
    rfl
  · intro mem
    have outside : ends.any Text.isNameStart = false := by decide
    exact List.any_eq_false.1 outside c mem start

theorem spells_number {cs : List Char} (token : NumberToken cs) : Spells cs (ofToken cs) := by
  obtain ⟨c, head, start⟩ := token.opens
  obtain ⟨tail, rfl⟩ : ∃ tail, cs = c :: tail := ⟨cs.tail, eq_cons_of_head? head⟩
  have noName : ¬ Text.isNameStart c = true := by
    rcases start with digit | rfl
    · exact not_isNameStart_of_isDigit digit
    · decide
  have apart : ∀ d, d.isDigit = false → d ≠ '-' → c ≠ d := by
    rintro d notDigit notMinus rfl
    rcases start with digit | minus
    · exact absurd digit (Bool.eq_false_iff.1 notDigit)
    · exact notMinus minus
  refine ⟨fun depth enough rest follows => ?_, ⟨c, rfl, ?_⟩⟩
  · have whole := reads_number token rest follows
    obtain ⟨depth, rfl⟩ := Nat.exists_eq_add_of_le' enough
    show readWithin (depth + tail.length + 1) (c :: (tail ++ rest)) = _
    rw [readWithin, if_neg (apart '[' rfl (by decide)), if_neg (apart '\x7b' rfl (by decide)),
      if_neg (apart '"' rfl (by decide)), if_neg noName, if_pos start]
    exact whole
  · intro mem
    have noDigit : ends.any Char.isDigit = false := by decide
    refine apart c (Bool.eq_false_iff.2 (List.any_eq_false.1 noDigit c mem)) ?_ rfl
    rintro rfl
    exact absurd mem (by decide)

theorem spells_intLiteral (n : Int) : Spells (Value.intLiteral n) (.integer n) := by
  have spells := spells_number (numberToken_intLiteral n)
  rw [ofToken_intLiteral] at spells
  exact spells

theorem spells_numeral (x : Binary64) : Spells x.numeral (.numeral (String.ofList x.numeral)) := by
  have spells := spells_number x.numberToken_numeral
  rw [x.ofToken_numeral] at spells
  exact spells

theorem spells_jsonNumber (n : JsonNumber) : Spells n.text n.skeleton := by
  have spells := spells_number n.numberToken_text
  rw [n.ofToken_text] at spells
  exact spells

theorem spells_quoted (cs : List Char) : Spells (Text.quoted cs) (.text (String.ofList cs)) := by
  refine ⟨fun depth enough rest follows => ?_, ⟨'"', rfl, by decide⟩⟩
  obtain ⟨p, whole⟩ := Text.readString_quoted cs rest
  have text : Text.quoted cs ++ rest = '"' :: (cs.flatMap Text.escaped ++ '"' :: rest) := by
    simp [Text.quoted]
  obtain ⟨depth, rfl⟩ := Nat.exists_eq_add_of_le' (Nat.le_trans (Nat.succ_pos _) enough)
  rw [text, readWithin, if_neg (by decide), if_neg (by decide), if_pos rfl]
  unfold readText
  rw [whole]

theorem spells_list {pieces : List (List Char × Literal)} (spells : ∀ p ∈ pieces, Spells p.1 p.2) :
    Spells ('[' :: joined ',' true (pieces.map (·.1)) ++ [']']) (.list (pieces.map (·.2))) := by
  refine ⟨fun depth enough rest follows => ?_, ⟨'[', rfl, by decide⟩⟩
  obtain ⟨depth, rfl⟩ := Nat.exists_eq_add_of_le' (Nat.le_trans (Nat.succ_pos _) enough)
  have items : ∀ p ∈ pieces, (readWithin depth).Reads [',', ']'] p.1 p.2 := by
    intro p mem
    refine ((spells p mem).reads depth ?_).mono (by decide)
    have inside := length_le_of_mem_joined ',' (List.mem_map_of_mem (f := (·.1)) mem) true
    rw [List.length_append, List.length_cons] at enough
    omega
  have opens : ∀ p ∈ pieces, Opens (· ≠ ']') p.1 :=
    fun p mem => (spells p mem).opens_ne (by decide)
  have whole : Reader.list (readWithin depth) ',' ']'
      (joined ',' true (pieces.map (·.1)) ++ ']' :: rest) = some (pieces.map (·.2), rest) :=
    reads_list (by decide) items opens rest
  rw [List.append_assoc, List.cons_append, readWithin, if_pos rfl]
  exact congrArg (Option.map fun r => (Literal.list r.1, r.2)) whole

/-- An entry of an object: its key, the text of its value and what that spells. -/
structure Piece where
  key : String
  text : List Char
  value : Literal

/-- The text of an entry. -/
def Piece.entryText (e : Piece) : List Char := e.key.toList ++ ':' :: e.text

theorem spells_object {pieces : List Piece}
    (spells : ∀ e ∈ pieces, Text.isName e.key.toList = true ∧ Spells e.text e.value) :
    Spells ('\x7b' :: joined ',' true (pieces.map Piece.entryText) ++ ['\x7d'])
      (.object (pieces.map fun e => (e.key, e.value))) := by
  refine ⟨fun depth enough rest follows => ?_, ⟨'\x7b', rfl, by decide⟩⟩
  obtain ⟨depth, rfl⟩ := Nat.exists_eq_add_of_le' (Nat.le_trans (Nat.succ_pos _) enough)
  have reads : ∀ e ∈ pieces, (entry (readWithin depth)).Reads [',', '\x7d'] e.entryText
      (e.key, e.value) := by
    intro e mem
    obtain ⟨isName, value⟩ := spells e mem
    refine reads_entry isName ((value.reads depth ?_).mono (by decide))
    have inside := length_le_of_mem_joined ',' (List.mem_map_of_mem (f := Piece.entryText) mem) true
    have shorter : e.text.length < e.entryText.length := by
      unfold Piece.entryText
      rw [List.length_append, List.length_cons]
      omega
    rw [List.length_append, List.length_cons] at enough
    omega
  have opens : ∀ e ∈ pieces, Opens (· ≠ '\x7d') e.entryText :=
    fun e mem => ((spells_word (spells e mem).1).opens_ne (by decide)).append _
  have whole : Reader.list (entry (readWithin depth)) ',' '\x7d'
      (joined ',' true (pieces.map Piece.entryText) ++ '\x7d' :: rest) =
        some (pieces.map fun e => (e.key, e.value), rest) :=
    reads_list (by decide) reads opens rest
  rw [List.append_assoc, List.cons_append, readWithin, if_neg (by decide), if_pos rfl]
  exact congrArg (Option.map fun r => (Literal.object r.1, r.2)) whole

theorem spells_clockText {cs : List Char} (clock : ClockText cs) :
    Spells (Value.inQuotes cs) (.text (String.ofList cs)) := by
  have quoted := spells_quoted cs
  rw [clock.quoted_eq] at quoted
  exact quoted

end Literal

namespace Value

/-! ## The writer -/

/-- What is written, if anything, is what was written before and a literal that spells this. -/
def Appends (out : List Char) (l : Literal) (written : Except EncodeError (List Char)) : Prop :=
  ∀ out', written = .ok out' → ∃ text, Spells text l ∧ out' = out ++ text

theorem Appends.of_eq {out text : List Char} {l : Literal} (spells : Spells text l) :
    Appends out l (.ok (out ++ text)) := by
  intro out' written
  exact ⟨text, spells, (Except.ok.inj written).symm⟩

theorem Appends.of_error {out : List Char} {l : Literal} {error : EncodeError} :
    Appends out l (.error error) := fun _ written => absurd written nofun

theorem Appends.text {out cs : List Char} (clock : ClockText cs) :
    Appends out (.text (String.ofList cs)) (.ok (out ++ inQuotes cs)) :=
  .of_eq (spells_clockText clock)

mutual

/-- **What is written of a value is a literal that spells its skeleton.** -/
theorem spells_of_write (out : List Char) : ∀ v : Value, Appends out v.skeleton (v.write out)
  | .null => .of_eq (spells_word (by decide) : Spells "null".toList _)
  | .bool true => .of_eq (spells_word (by decide) : Spells "true".toList _)
  | .bool false => .of_eq (spells_word (by decide) : Spells "false".toList _)
  | .int n => .of_eq (spells_intLiteral n.toInt)
  | .uint n => .of_eq (spells_intLiteral n.toNat)
  | .int128 n => .of_eq (spells_intLiteral n.val)
  | .uint128 n => .of_eq (spells_intLiteral n.val)
  | .float x => by
    unfold write
    split
    · exact .of_eq (spells_numeral x)
    · exact .of_error
  | .number n => .of_eq (spells_jsonNumber n)
  | .text s => by
    have spells := spells_quoted s.toList
    rw [String.ofList_toList] at spells
    exact .of_eq spells
  | .enum name => by
    unfold write
    split
    · rename_i isName
      exact .of_eq (spells_word isName)
    · exact .of_error
  | .date d => .text d.clockText
  | .time t => .text t.clockText
  | .localDateTime dt => .text dt.clockText
  | .dateTime dt => by
    unfold write
    split
    · rename_i form internet
      obtain rfl := DateTime.eq_of_internetText internet
      exact .text (dt.localTime.clockText.append dt.offset.clockText)
    · exact .of_error
  | .list items => by
    intro out' written
    unfold write at written
    obtain ⟨inside, writtenItems, written⟩ := Outcome.bind_eq_ok_iff.1 written
    obtain ⟨pieces, spells, skeletons, rfl⟩ :=
      pieces_of_writeItems (out ++ ['[']) true items inside writtenItems
    refine ⟨_, skeletons ▸ spells_list spells, ?_⟩
    rw [← Except.ok.inj written]
    simp
  | .object entries => by
    intro out' written
    unfold write at written
    obtain ⟨inside, writtenEntries, written⟩ := Outcome.bind_eq_ok_iff.1 written
    obtain ⟨pieces, spells, skeletons, rfl⟩ :=
      pieces_of_writeEntries (out ++ ['\x7b']) true entries inside writtenEntries
    refine ⟨_, skeletons ▸ spells_object spells, ?_⟩
    rw [← Except.ok.inj written]
    simp

/-- What is written of items is pieces that spell them, joined. -/
theorem pieces_of_writeItems (out : List Char) (opening : Bool) :
    ∀ (items : List Value) (out' : List Char), writeItems out opening items = .ok out' →
      ∃ pieces : List (List Char × Literal), (∀ p ∈ pieces, Spells p.1 p.2) ∧
        pieces.map (·.2) = skeletons items ∧
        out' = out ++ joined ',' opening (pieces.map (·.1))
  | [], out', written => by
    obtain rfl := Except.ok.inj written
    exact ⟨[], nofun, rfl, (List.append_nil _).symm⟩
  | item :: rest, out', written => by
    unfold writeItems at written
    obtain ⟨between, first, written⟩ := Outcome.bind_eq_ok_iff.1 written
    obtain ⟨text, spells, rfl⟩ := spells_of_write _ item between first
    obtain ⟨pieces, others, same, rfl⟩ := pieces_of_writeItems _ false rest out' written
    refine ⟨(text, item.skeleton) :: pieces, List.forall_mem_cons.2 ⟨spells, others⟩, ?_, ?_⟩
    · rw [List.map_cons, same]
      rfl
    · cases opening <;> simp [joined]

/-- What is written of entries is pieces that spell them, joined. -/
theorem pieces_of_writeEntries (out : List Char) (opening : Bool) :
    ∀ (entries : List (String × Value)) (out' : List Char),
      writeEntries out opening entries = .ok out' →
      ∃ pieces : List Piece,
        (∀ e ∈ pieces, Text.isName e.key.toList = true ∧ Spells e.text e.value) ∧
        (pieces.map fun e => (e.key, e.value)) = entrySkeletons entries ∧
        out' = out ++ joined ',' opening (pieces.map Piece.entryText)
  | [], out', written => by
    obtain rfl := Except.ok.inj written
    exact ⟨[], nofun, rfl, (List.append_nil _).symm⟩
  | (key, value) :: rest, out', written => by
    unfold writeEntries at written
    split at written
    · rename_i isName
      obtain ⟨between, first, written⟩ := Outcome.bind_eq_ok_iff.1 written
      obtain ⟨text, spells, rfl⟩ := spells_of_write _ value between first
      obtain ⟨pieces, others, same, rfl⟩ := pieces_of_writeEntries _ false rest out' written
      refine ⟨⟨key, text, value.skeleton⟩ :: pieces,
        List.forall_mem_cons.2 ⟨⟨isName, spells⟩, others⟩, ?_, ?_⟩
      · rw [List.map_cons, same]
        rfl
      · cases opening <;> simp [joined, Piece.entryText]
    · exact absurd written nofun

end

theorem spells_literal {v : Value} {text : String} (encoded : v.literal = .ok text) :
    Spells text.toList v.skeleton := by
  obtain ⟨cs, written, rfl⟩ := Outcome.map_eq_ok_iff.1 encoded
  obtain ⟨text, spells, rfl⟩ := spells_of_write [] v cs written
  rw [String.toList_ofList]
  exact spells

theorem reads_literal {v : Value} {text : String} (encoded : v.literal = .ok text) :
    Literal.read.Reads ends text.toList v.skeleton := by
  intro rest follows
  have enough : text.toList.length ≤ (text.toList ++ rest).length := by
    rw [List.length_append]
    exact Nat.le_add_right ..
  exact (spells_literal encoded).reads _ enough rest follows

/-- Values with one literal differ at most in what literals do not say. -/
theorem skeleton_eq_of_literal_eq {v w : Value} {text : String} (encoded : v.literal = .ok text)
    (encoded' : w.literal = .ok text) : v.skeleton = w.skeleton := by
  have first := reads_literal encoded [] (follows_nil _)
  have second := reads_literal encoded' [] (follows_nil _)
  exact congrArg Prod.fst (Option.some.inj (first.symm.trans second))

/-- **The literal of a value is read back as its skeleton**, whatever may follow a literal, and
    nothing more is read. Entries come back in order, and under distinct keys where the value has
    them so. -/
theorem read_literal {v : Value} {text : String} (encoded : v.literal = .ok text)
    {rest : List Char} (follows : Follows ends rest) :
    Literal.read (text.toList ++ rest) = some (v.skeleton, rest) ∧
      (v.KeysDistinct → v.skeleton.KeysDistinct) :=
  ⟨reads_literal encoded rest follows, keysDistinct_skeleton v⟩

/-- A list in an object, with text that looks like the end of it. -/
def quotation : Value :=
  ofEntries [("lines", .list [.text "a\"]\x7d,\n", .int (-7), .float ⟨0x3FF8000000000000⟩]),
    ("kind", .enum "NOTE"), ("none", .null)]

theorem read_quotation :
    quotation.literal =
        .ok "\x7blines:[\"a\\\"]\x7d,\\n\",-7,1.5],kind:NOTE,none:null\x7d" ∧
      Follows ends [')', ' '] ∧
      Literal.read ("\x7blines:[\"a\\\"]\x7d,\\n\",-7,1.5],kind:NOTE,none:null\x7d".toList ++
          [')', ' ']) =
        some (.object [("lines", .list [.text "a\"]\x7d,\n", .integer (-7), .numeral "1.5"]),
          ("kind", .word "NOTE"), ("none", .word "null")], [')', ' ']) ∧
      quotation.skeleton.KeysDistinct := by
  have encoded : quotation.literal =
      .ok "\x7blines:[\"a\\\"]\x7d,\\n\",-7,1.5],kind:NOTE,none:null\x7d" := by rfl
  have follows : Follows ends [')', ' '] := follows_cons (by decide) _
  obtain ⟨whole, keys⟩ := read_literal encoded follows
  refine ⟨encoded, follows, whole, keys (keysDistinct_ofEntries ?_)⟩
  simp [KeysDistinct, AllDistinct]

end Value

end TypedQuery
