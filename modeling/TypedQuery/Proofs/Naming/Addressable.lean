import TypedQuery.Proofs.Naming.Camel
import TypedQuery.Proofs.Naming.LetterCase

/-!
# `isName_apply_iff` — which names stay names

A policy turns a declared name into a field name, and a field can be asked for only under a GraphQL
name. Nothing but name characters comes out of a name, so the first of them decides. Two policies keep
it a letter or an underscore. Camel case drops the underscores in front, so what it puts first is the
first character that is no underscore: a letter serves, a digit does not, and of underscores alone
nothing is left.
-/

set_option autoImplicit false

namespace TypedQuery.Text

variable {c : Char} {cs : List Char} {raised : Bool}

/-! ## Name characters -/

theorem isAlphanum_of_ne (h : isNameContinue c = true) (other : c ≠ '_') :
    c.isAlphanum = true := by
  simpa [isNameContinue, other] using h

theorem isNameContinue_of_isAlphanum (h : c.isAlphanum = true) : isNameContinue c = true := by
  simp [isNameContinue, h]

/-- Of letters and digits, those that open with a letter are names. -/
theorem isName_of_alphanum (all : ∀ c ∈ cs, c.isAlphanum = true) :
    isName cs = cs.head?.any Char.isAlpha := by
  cases cs with
  | nil => rfl
  | cons c rest =>
    obtain ⟨here, below⟩ := List.forall_mem_cons.1 all
    have continues : rest.all isNameContinue = true :=
      List.all_eq_true.2 fun d mem => isNameContinue_of_isAlphanum (below d mem)
    have notUnderscore : (c == '_') = false := by
      apply beq_false_of_ne
      rintro rfl
      exact absurd here (by decide)
    simp [isName, isNameStart, continues, notUnderscore]

/-! ## What camel case leaves of a name -/

theorem isAlphanum_of_mem_humped (all : ∀ c ∈ cs, isNameContinue c = true)
    (mem : c ∈ humped raised cs) : c.isAlphanum = true := by
  induction cs generalizing raised with
  | nil => exact absurd mem (by simp [humped])
  | cons d rest ih =>
    obtain ⟨here, below⟩ := List.forall_mem_cons.1 all
    by_cases separator : d = '_'
    · rw [separator, humped_underscore] at mem
      exact ih below mem
    · rw [humped_of_ne raised separator] at mem
      have plain := isAlphanum_of_ne here separator
      rcases List.mem_cons.1 mem with rfl | mem
      · split
        · exact isAlphanum_toUpper plain
        · exact isAlphanum_toLower plain
      · exact ih below mem

theorem head?_humped : (humped raised cs).head?.any Char.isAlpha =
    (cs.dropWhile (· == '_')).head?.any Char.isAlpha := by
  induction cs generalizing raised with
  | nil => rfl
  | cons c rest ih =>
    by_cases separator : c = '_'
    · rw [separator, humped_underscore]
      exact ih
    · rw [humped_of_ne raised separator, List.dropWhile_cons_of_neg (by simpa using separator)]
      cases raised <;> simp

theorem humped_eq_nil_iff : humped raised cs = [] ↔ ∀ c ∈ cs, c = '_' := by
  induction cs generalizing raised with
  | nil => simp [humped]
  | cons c rest ih =>
    by_cases separator : c = '_'
    · rw [separator, humped_underscore, ih]
      simp
    · simp [humped_of_ne raised separator, separator]

theorem isName_modifyHead_toLower (named : isName cs = true) :
    isName (cs.modifyHead Char.toLower) = true := by
  cases cs with
  | nil => exact absurd named (by simp [isName])
  | cons c rest =>
    rw [isName, Bool.and_eq_true] at named
    rw [List.modifyHead_cons, isName, isNameStart_toLower named.1, named.2]
    rfl

end TypedQuery.Text

namespace TypedQuery.FieldCase

open Text

variable {name : String}

/-- Under the policies that keep every character, a name stays a name. -/
theorem isName_apply_of_ne {case : FieldCase} (named : isName name.toList = true)
    (keeps : case ≠ camel) : isName (case.apply name).toList = true := by
  rw [toList_apply named]
  cases case with
  | camel => exact absurd rfl keeps
  | lowerFirst => exact isName_modifyHead_toLower named
  | preserve => exact named

/-- **Which names stay names.** Whatever the policy, a name gives name characters only. It gives a
    name, except that camel case has to meet a letter first once the underscores in front are gone;
    and it gives the empty text where camel case meets nothing but underscores. -/
theorem isName_apply_iff (named : isName name.toList = true) (case : FieldCase) :
    (∀ c ∈ (case.apply name).toList, isNameContinue c = true) ∧
    (isName (case.apply name).toList = true ↔
      (case = camel → (name.toList.dropWhile (· == '_')).head?.any Char.isAlpha = true)) ∧
    (case.apply name = "" ↔ case = camel ∧ ∀ c ∈ name.toList, c = '_') := by
  by_cases keeps : case ≠ camel
  · have stays := isName_apply_of_ne named keeps
    refine ⟨?_, ?_, ?_⟩
    · exact List.all_eq_true.1 (all_isNameContinue_of_isName stays)
    · simp [stays, keeps]
    · have nonempty : case.apply name ≠ "" := by
        intro empty
        rw [empty] at stays
        exact absurd stays (by simp [isName])
      simp [nonempty, keeps]
  · obtain rfl : case = camel := not_not.1 keeps
    have all := List.all_eq_true.1 (all_isNameContinue_of_isName named)
    have text : (camel.apply name).toList = humped false name.toList := toList_apply named camel
    have plain : ∀ c ∈ humped false name.toList, c.isAlphanum = true :=
      fun c mem => isAlphanum_of_mem_humped all mem
    refine ⟨?_, ?_, ?_⟩
    · rw [text]
      exact fun c mem => isNameContinue_of_isAlphanum (plain c mem)
    · rw [text, isName_of_alphanum plain, head?_humped]
      simp
    · rw [← String.toList_eq_nil_iff, text, humped_eq_nil_iff]
      simp

/-- A leading underscore does no harm where a letter follows. -/
theorem isName_apply_createdAt :
    isName "_created_at".toList = true ∧ isName (camel.apply "_created_at").toList = true := by
  have named : isName "_created_at".toList = true := by decide
  exact ⟨named, (isName_apply_iff named camel).2.1.2 fun _ => by decide⟩

/-- Names of which camel case leaves no name: a digit in front, or nothing. -/
theorem unnamed_of_underscored :
    (isName "_1".toList = true ∧ isName (camel.apply "_1").toList = false) ∧
      isName "__".toList = true ∧ isName (camel.apply "__").toList = false := by
  decide

end TypedQuery.FieldCase
