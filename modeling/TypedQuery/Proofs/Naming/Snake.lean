import TypedQuery.Proofs.Naming.Camel
import TypedQuery.Proofs.Naming.LetterCase

/-!
# `camel_snake` — canonical snake case can be read back

A word of canonical snake case is a lower-case letter followed by lower-case letters and digits, and
words are joined by single underscores. Of such a text camel case keeps everything but the
underscores, and raises one letter in place of each (`humped_snake`). Since no other letter is raised,
the words are what lies between the raised letters (`humps_camel`): **camel case of canonical snake
case can be undone**, and no two such texts have one field name.
-/

set_option autoImplicit false

namespace TypedQuery.Text

def isLowerOrDigit (c : Char) : Bool := c.isLower || c.isDigit

/-- A word of canonical snake case. -/
def isWord : List Char → Bool
  | [] => false
  | c :: rest => c.isLower && rest.all isLowerOrDigit

/-- A word with its first letter raised. -/
def raised (word : List Char) : List Char := word.modifyHead Char.toUpper

/-- A text cut before every upper-case letter. -/
def humps : List Char → List (List Char)
  | [] => [[]]
  | c :: rest =>
    if c.isUpper then [] :: (humps rest).modifyHead (c :: ·)
    else (humps rest).modifyHead (c :: ·)

variable {c : Char} {word : List Char} {words : List (List Char)}

/-! ## Words -/

theorem isUpper_of_isLowerOrDigit (h : isLowerOrDigit c = true) : c.isUpper = false := by
  rw [isLowerOrDigit, Bool.or_eq_true] at h
  rcases h with lower | digit
  · exact Bool.eq_false_iff.2 (Char.not_isUpper_of_isLower lower)
  · apply Bool.eq_false_iff.2
    intro upper
    have range := toNat_of_isUpper upper
    have range' := toNat_of_isDigit digit
    omega

theorem toLower_of_isLowerOrDigit (h : isLowerOrDigit c = true) : c.toLower = c :=
  Char.toLower_eq_of_not_isUpper (by simp [isUpper_of_isLowerOrDigit h])

theorem ne_underscore_of_isLowerOrDigit (h : isLowerOrDigit c = true) : c ≠ '_' := by
  rintro rfl
  exact absurd h (by decide)

theorem isNameContinue_of_isLowerOrDigit (h : isLowerOrDigit c = true) :
    isNameContinue c = true := by
  rw [isLowerOrDigit, Bool.or_eq_true] at h
  rcases h with lower | digit
  · simp [isNameContinue, Char.isAlphanum, Char.isAlpha, lower]
  · simp [isNameContinue, Char.isAlphanum, digit]

/-- A word, taken apart. -/
theorem exists_cons_of_isWord (h : isWord word = true) : ∃ c rest, word = c :: rest ∧
    c.isLower = true ∧ ∀ d ∈ c :: rest, isLowerOrDigit d = true := by
  cases word with
  | nil => exact absurd h (by simp [isWord])
  | cons c rest =>
    rw [isWord, Bool.and_eq_true] at h
    refine ⟨c, rest, rfl, h.1, List.forall_mem_cons.2 ⟨?_, List.all_eq_true.1 h.2⟩⟩
    rw [isLowerOrDigit, h.1, Bool.true_or]

theorem isLowerOrDigit_of_mem (h : isWord word = true) (mem : c ∈ word) :
    isLowerOrDigit c = true := by
  obtain ⟨_, _, rfl, -, plain⟩ := exists_cons_of_isWord h
  exact plain c mem

theorem modifyHead_toLower_word (h : isWord word = true) :
    word.modifyHead Char.toLower = word := by
  obtain ⟨c, rest, rfl, -, plain⟩ := exists_cons_of_isWord h
  rw [List.modifyHead_cons, toLower_of_isLowerOrDigit (plain c List.mem_cons_self)]

theorem modifyHead_toLower_raised (h : isWord word = true) :
    (raised word).modifyHead Char.toLower = word := by
  obtain ⟨c, rest, rfl, -, plain⟩ := exists_cons_of_isWord h
  rw [raised, List.modifyHead_cons, List.modifyHead_cons, Char.toLower_toUpper_eq_toLower,
    toLower_of_isLowerOrDigit (plain c List.mem_cons_self)]

/-! ## Words joined by underscores -/

theorem isNameContinue_of_mem_snake (canonical : ∀ w ∈ words, isWord w = true)
    (mem : c ∈ ['_'].intercalate words) : isNameContinue c = true := by
  induction words with
  | nil => exact absurd mem (by simp)
  | cons w ws ih =>
    obtain ⟨here, below⟩ := List.forall_mem_cons.1 canonical
    have ofWord : c ∈ w → isNameContinue c = true := fun mem =>
      isNameContinue_of_isLowerOrDigit (isLowerOrDigit_of_mem here mem)
    cases ws with
    | nil =>
      rw [List.intercalate_singleton] at mem
      exact ofWord mem
    | cons v vs =>
      rw [List.intercalate_cons_cons, List.mem_append, List.mem_append] at mem
      rcases mem with (mem | mem) | mem
      · exact ofWord mem
      · obtain rfl := List.mem_singleton.1 mem
        decide
      · exact ih below mem

/-- Words joined by underscores are a name. -/
theorem isName_snake {first : List Char} {others : List (List Char)}
    (canonical : ∀ w ∈ first :: others, isWord w = true) :
    isName (['_'].intercalate (first :: others)) = true := by
  obtain ⟨c, rest, rfl, lower, -⟩ := exists_cons_of_isWord (canonical first List.mem_cons_self)
  have opens : ∃ more, ['_'].intercalate ((c :: rest) :: others) = c :: more := by
    cases others with
    | nil => exact ⟨rest, List.intercalate_singleton⟩
    | cons v vs => exact ⟨_, List.intercalate_cons_cons⟩
  obtain ⟨more, eq⟩ := opens
  have starts : isNameStart c = true := by simp [isNameStart, Char.isAlpha, lower]
  rw [eq, isName, starts, Bool.true_and, List.all_eq_true]
  intro d mem
  exact isNameContinue_of_mem_snake canonical (eq ▸ List.mem_cons_of_mem c mem)

theorem humped_plain (plain : ∀ d ∈ word, isLowerOrDigit d = true) (text : List Char) :
    humped false (word ++ text) = word ++ humped false text := by
  induction word with
  | nil => rfl
  | cons d rest ih =>
    obtain ⟨here, below⟩ := List.forall_mem_cons.1 plain
    rw [List.cons_append, humped_of_ne _ (ne_underscore_of_isLowerOrDigit here),
      if_neg Bool.false_ne_true, toLower_of_isLowerOrDigit here, ih below]
    rfl

theorem humped_word (h : isWord word = true) (after : Bool) (text : List Char) :
    humped after (word ++ text) = (if after then raised word else word) ++ humped false text := by
  obtain ⟨c, rest, rfl, -, plain⟩ := exists_cons_of_isWord h
  obtain ⟨here, below⟩ := List.forall_mem_cons.1 plain
  rw [List.cons_append, humped_of_ne after (ne_underscore_of_isLowerOrDigit here),
    humped_plain below, toLower_of_isLowerOrDigit here]
  cases after <;> rfl

/-- The first word as it is, unless an underscore stands before it, and the others raised. -/
theorem humped_snake {first : List Char} {others : List (List Char)}
    (canonical : ∀ w ∈ first :: others, isWord w = true) (after : Bool) :
    humped after (['_'].intercalate (first :: others)) =
      (if after then raised first else first) ++ (others.map raised).flatten := by
  induction others generalizing first after with
  | nil =>
    have whole := humped_word (canonical first List.mem_cons_self) after []
    rw [List.append_nil] at whole
    rw [List.intercalate_singleton, whole]
    rfl
  | cons next others ih =>
    obtain ⟨here, below⟩ := List.forall_mem_cons.1 canonical
    rw [List.intercalate_cons_cons, List.append_assoc, humped_word here, List.singleton_append,
      humped_underscore, ih below true]
    rfl

/-! ## Cut again -/

theorem humps_plain (plain : ∀ d ∈ word, d.isUpper = false) {text first : List Char}
    {more : List (List Char)} (cut : humps text = first :: more) :
    humps (word ++ text) = (word ++ first) :: more := by
  induction word with
  | nil => exact cut
  | cons d rest ih =>
    obtain ⟨here, below⟩ := List.forall_mem_cons.1 plain
    rw [List.cons_append, humps, here, if_neg Bool.false_ne_true, ih below]
    rfl

/-- Raised words are cut apart, and nothing stands before the first cut. -/
theorem humps_raised (canonical : ∀ w ∈ words, isWord w = true) :
    humps (words.map raised).flatten = [] :: words.map raised := by
  induction words with
  | nil => rfl
  | cons w ws ih =>
    obtain ⟨here, below⟩ := List.forall_mem_cons.1 canonical
    obtain ⟨c, rest, rfl, lower, plain⟩ := exists_cons_of_isWord here
    have upper : c.toUpper.isUpper = true := by simp [Char.isAlpha, lower]
    have tail : ∀ d ∈ rest, d.isUpper = false :=
      fun d mem => isUpper_of_isLowerOrDigit (plain d (List.mem_cons_of_mem c mem))
    rw [List.map_cons, List.flatten_cons, raised, List.modifyHead_cons, List.cons_append, humps, upper,
      if_pos rfl, humps_plain tail (ih below), List.append_nil]
    rfl

/-- Cutting before every upper-case letter gives the words, all but the first of them raised. -/
theorem humps_camel {first : List Char} {others : List (List Char)}
    (canonical : ∀ w ∈ first :: others, isWord w = true) :
    humps (first ++ (others.map raised).flatten) = first :: others.map raised := by
  obtain ⟨here, below⟩ := List.forall_mem_cons.1 canonical
  have plain : ∀ d ∈ first, d.isUpper = false :=
    fun d mem => isUpper_of_isLowerOrDigit (isLowerOrDigit_of_mem here mem)
  rw [humps_plain plain (humps_raised below), List.append_nil]

end TypedQuery.Text

namespace TypedQuery.FieldCase

open Text

/-- A word with its first letter raised. -/
def raisedWord (word : String) : String := String.ofList (raised word.toList)

/-- A field name cut before every upper-case letter. -/
def pieces (fieldName : String) : List String := (humps fieldName.toList).map String.ofList

/-- The words of a field name: its pieces, with the letters at the cuts lowered. -/
def wordsOf (fieldName : String) : List String :=
  (pieces fieldName).map fun piece => String.ofList (piece.toList.modifyHead Char.toLower)

variable {first : String} {others : List String}

theorem camel_apply_snake (canonical : ∀ w ∈ first :: others, isWord w.toList = true) :
    camel.apply ("_".intercalate (first :: others)) =
      String.join (first :: others.map raisedWord) := by
  have words : ∀ w ∈ first.toList :: others.map String.toList, isWord w = true := by
    simpa using canonical
  have text : ("_".intercalate (first :: others)).toList =
      ['_'].intercalate (first.toList :: others.map String.toList) := String.toList_intercalate
  apply String.toList_injective
  rw [toList_apply (text ▸ isName_snake words), text, String.toList_join]
  show humped false _ = _
  rw [humped_snake words]
  simp [List.flatMap, raisedWord, Function.comp_def]

theorem pieces_camel (canonical : ∀ w ∈ first :: others, isWord w.toList = true) :
    pieces (camel.apply ("_".intercalate (first :: others))) = first :: others.map raisedWord := by
  have words : ∀ w ∈ first.toList :: others.map String.toList, isWord w = true := by
    simpa using canonical
  have cut := humps_camel words
  rw [camel_apply_snake canonical, pieces, String.toList_join]
  simp [List.flatMap, raisedWord, Function.comp_def] at cut ⊢
  rw [cut]
  simp [raisedWord]

theorem wordsOf_camel (canonical : ∀ w ∈ first :: others, isWord w.toList = true) :
    wordsOf (camel.apply ("_".intercalate (first :: others))) = first :: others := by
  obtain ⟨here, below⟩ := List.forall_mem_cons.1 canonical
  have lowered : ∀ w ∈ others,
      String.ofList ((raisedWord w).toList.modifyHead Char.toLower) = w := by
    intro w mem
    rw [raisedWord, String.toList_ofList, modifyHead_toLower_raised (below w mem),
      String.ofList_toList]
  rw [wordsOf, pieces_camel canonical, List.map_cons, modifyHead_toLower_word here,
    String.ofList_toList, List.map_map]
  congr 1
  exact (List.map_congr_left lowered).trans (List.map_id others)

/-- **Camel case of canonical snake case can be undone.** It is the first word followed by the others,
    each with its first letter raised; cut before every upper-case letter it falls into these, and so
    the words are read back. Two identifiers of one field name are therefore the same. -/
theorem camel_snake (canonical : ∀ w ∈ first :: others, isWord w.toList = true) :
    camel.apply ("_".intercalate (first :: others)) =
      String.join (first :: others.map raisedWord) ∧
    pieces (camel.apply ("_".intercalate (first :: others))) = first :: others.map raisedWord ∧
    wordsOf (camel.apply ("_".intercalate (first :: others))) = first :: others ∧
    ∀ first' others', (∀ w ∈ first' :: others', isWord w.toList = true) →
      camel.apply ("_".intercalate (first' :: others')) =
        camel.apply ("_".intercalate (first :: others)) →
      "_".intercalate (first' :: others') = "_".intercalate (first :: others) := by
  refine ⟨camel_apply_snake canonical, pieces_camel canonical, wordsOf_camel canonical, ?_⟩
  intro first' others' canonical' same
  have words : first' :: others' = first :: others := by
    rw [← wordsOf_camel canonical', same, wordsOf_camel canonical]
  rw [words]

/-- Digits, at the end of a word or alone after its letter, cut nothing. -/
theorem camel_sha256_hex_v2 :
    (∀ w ∈ ["sha256", "hex", "v2"], isWord w.toList = true) ∧
      camel.apply ("_".intercalate ["sha256", "hex", "v2"]) = "sha256HexV2" ∧
      wordsOf (camel.apply ("_".intercalate ["sha256", "hex", "v2"])) = ["sha256", "hex", "v2"] := by
  have canonical : ∀ w ∈ ["sha256", "hex", "v2"], isWord w.toList = true := by simp; decide
  obtain ⟨joined, -, words, -⟩ := camel_snake canonical
  exact ⟨canonical, joined.trans (by decide), words⟩

end TypedQuery.FieldCase
