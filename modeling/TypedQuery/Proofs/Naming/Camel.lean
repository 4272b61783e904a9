import TypedQuery.Text.FieldName
import TypedQuery.Text.Name

/-!
# `humped` — camel case read off one character at a time

Camel case cuts a text into words, maps their letters and joins them again. Of an ASCII text nothing
of this needs the words: an underscore is dropped, a character right after one is written in upper
case, and every other in lower case. `humped` says so, and `camel_eq_humped` is the equality. The
names of fields are ASCII texts in this sense, so what a policy makes of one is known character by
character (`toList_apply`).
-/

set_option autoImplicit false

namespace TypedQuery.Text

/-! ## Words of ASCII texts -/

def IsAscii (cs : List Char) : Prop := ∀ c ∈ cs, c.toNat < 128

variable {c : Char} {cs rest : List Char} {previous : Option Char}

theorem isAscii_cons : IsAscii (c :: cs) ↔ c.toNat < 128 ∧ IsAscii cs := List.forall_mem_cons

theorem lowerFrom_of_isAscii (ascii : IsAscii cs) (before : List Char) :
    lowerFrom before cs = cs.map Char.toLower := by
  induction cs generalizing before with
  | nil => rfl
  | cons c rest ih =>
    obtain ⟨here, below⟩ := isAscii_cons.1 ascii
    have notSigma : (c == capitalSigma) = false := by
      apply beq_false_of_ne
      rintro rfl
      exact absurd here (by decide)
    rw [lowerFrom, notSigma, if_neg Bool.false_ne_true, lower_of_ascii here, ih below]
    rfl

theorem wordsAfter_ne_nil (previous : Option Char) (cs : List Char) :
    wordsAfter previous cs ≠ [] := by
  cases cs with
  | nil => simp [wordsAfter]
  | cons c rest =>
    unfold wordsAfter
    split
    · simp
    · split <;> simp

/-- Every character of a word is one of the text. -/
theorem mem_of_mem_wordsAfter {word : List Char} (mem : word ∈ wordsAfter previous cs)
    (here : c ∈ word) : c ∈ cs := by
  induction cs generalizing previous word with
  | nil => simp_all [wordsAfter]
  | cons d rest ih =>
    unfold wordsAfter at mem
    split at mem
    · rcases List.mem_cons.1 mem with rfl | mem
      · exact absurd here (by simp)
      · exact List.mem_cons_of_mem _ (ih mem here)
    · cases words : wordsAfter (some d) rest with
      | nil => exact absurd words (wordsAfter_ne_nil _ _)
      | cons first others =>
        rw [words] at mem
        rcases List.mem_cons.1 mem with rfl | mem
        · rcases List.mem_cons.1 here with rfl | here
          · exact List.mem_cons_self
          · exact List.mem_cons_of_mem _ (ih (words ▸ List.mem_cons_self) here)
        · exact List.mem_cons_of_mem _ (ih (words ▸ List.mem_cons_of_mem _ mem) here)

/-- No ASCII character attaches to an underscore, so that every underscore separates words. -/
theorem wordsAfter_underscore (ascii : IsAscii rest) (before : ∀ p ∈ previous, p.toNat < 128) :
    wordsAfter previous ('_' :: rest) = [] :: wordsAfter (some '_') rest := by
  have alone : previous.any attachesForward = false := by
    cases previous with
    | none => rfl
    | some p => exact attachesForward_of_ascii (before p rfl)
  have free : rest.head?.any attachesBack = false := by
    cases rest with
    | nil => rfl
    | cons c rest => exact attachesBack_of_ascii (isAscii_cons.1 ascii).1
  rw [wordsAfter, alone, free]
  rfl

theorem wordsAfter_of_ne (other : c ≠ '_') {word : List Char} {others : List (List Char)}
    (words : wordsAfter (some c) rest = word :: others) :
    wordsAfter previous (c :: rest) = (c :: word) :: others := by
  have notSeparator : (c == '_') = false := beq_false_of_ne other
  rw [wordsAfter, notSeparator, Bool.false_and, Bool.false_and, if_neg Bool.false_ne_true, words]

/-! ## Character by character -/

/-- Underscores are dropped; what follows one is in upper case and the rest in lower case. `raised`
    says that the text itself follows an underscore. -/
def humped (raised : Bool) : List Char → List Char
  | [] => []
  | c :: rest =>
    if c = '_' then humped true rest
    else (if raised then c.toUpper else c.toLower) :: humped false rest

@[simp] theorem humped_underscore (raised : Bool) (rest : List Char) :
    humped raised ('_' :: rest) = humped true rest := by simp [humped]

theorem humped_of_ne (raised : Bool) (other : c ≠ '_') (rest : List Char) :
    humped raised (c :: rest) =
      (if raised then c.toUpper else c.toLower) :: humped false rest := by
  simp [humped, other]

/-- The words of a text, joined in camel case or, after an underscore, all of them capitalised. -/
theorem joined_words (ascii : IsAscii cs) (before : ∀ p ∈ previous, p.toNat < 128) :
    camelWords (wordsAfter previous cs) = humped false cs ∧
      ((wordsAfter previous cs).map capitalize).flatten = humped true cs := by
  induction cs generalizing previous with
  | nil => exact ⟨rfl, rfl⟩
  | cons c rest ih =>
    obtain ⟨here, below⟩ := isAscii_cons.1 ascii
    have known : ∀ p ∈ some c, p.toNat < 128 := by simpa using here
    obtain ⟨lowered, raised⟩ := ih below known
    by_cases separator : c = '_'
    · subst separator
      rw [wordsAfter_underscore below before, humped_underscore, humped_underscore]
      exact ⟨raised, raised⟩
    · cases words : wordsAfter (some c) rest with
      | nil => exact absurd words (wordsAfter_ne_nil _ _)
      | cons word others =>
        have plain : IsAscii word := fun d mem =>
          below d (mem_of_mem_wordsAfter (words ▸ List.mem_cons_self) mem)
        have whole : IsAscii (c :: word) := isAscii_cons.2 ⟨here, plain⟩
        rw [words, camelWords, lowerText, lowerFrom_of_isAscii plain] at lowered
        rw [wordsAfter_of_ne separator words, humped_of_ne _ separator, humped_of_ne _ separator,
          ← lowered, camelWords, lowerText, lowerFrom_of_isAscii whole, List.map_cons, List.map_cons,
          List.flatten_cons, capitalize, upper_of_ascii here, lowerText, lowerFrom_of_isAscii plain]
        exact ⟨rfl, rfl⟩

/-- **Camel case of an ASCII text, one character at a time.** -/
theorem camel_eq_humped (ascii : IsAscii cs) : camel cs = humped false cs :=
  (joined_words ascii (by simp)).1

/-! ## Names -/

theorem toNat_lt_of_isNameContinue (h : isNameContinue c = true) : c.toNat < 128 := by
  simp only [isNameContinue, Bool.or_eq_true, beq_iff_eq] at h
  rcases h with rfl | h
  · decide
  · rcases Bool.or_eq_true_iff.1 h with letter | digit
    · have range := toNat_of_isAlpha letter
      omega
    · have range := toNat_of_isDigit digit
      omega

theorem isAscii_of_isName (named : isName cs = true) : IsAscii cs := fun c mem =>
  toNat_lt_of_isNameContinue (List.all_eq_true.1 (all_isNameContinue_of_isName named) c mem)

/-- A name has no mark to remove. -/
theorem unmarked_of_isName (named : isName cs = true) : unmarked cs = cs := by
  apply unmarked_eq_self
  intro mark
  have continues := List.all_eq_true.1 (all_isNameContinue_of_isName named) '#' mark
  exact absurd continues (by decide)

end TypedQuery.Text

namespace TypedQuery.FieldCase

open Text

/-- What a policy makes of the characters of a name. -/
theorem toList_apply {name : String} (named : isName name.toList = true) (case : FieldCase) :
    (case.apply name).toList =
      match case with
      | camel => humped false name.toList
      | lowerFirst => name.toList.modifyHead Char.toLower
      | preserve => name.toList := by
  unfold apply
  rw [String.toList_ofList, unmarked_of_isName named]
  have ascii := isAscii_of_isName named
  cases case with
  | camel => exact camel_eq_humped ascii
  | lowerFirst =>
    show Text.lowerFirst name.toList = _
    generalize name.toList = cs at ascii
    cases cs with
    | nil => rfl
    | cons c rest =>
      rw [Text.lowerFirst, lower_of_ascii (isAscii_cons.1 ascii).1]
      rfl
  | preserve => rfl

end TypedQuery.FieldCase
