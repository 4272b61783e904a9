import TypedQuery.Query.Error

/-!
# `shorten` — module paths off, all else kept

A text is runs of path characters with single characters between them, and that is how the recursion of
`shortenFrom` goes through it (`runs_induction`). A run loses what stands up to its last pair of colons
(`lastPart_cases`), and what stands between runs is kept and parts what is before it from what is after
(`shorten_append`). Everything else follows run by run: there is no pair of colons in the result, because
none is left in a run and no colon stands between two; and a text without a pair is left as it is. So the
second time nothing happens, which is why texts can be made of names that are short already.
-/

set_option autoImplicit false

namespace TypedQuery

namespace ShortName

variable {a b cs path part : List Char} {c : Char}

/-- Somewhere in the text two colons stand together. -/
def HasPair (cs : List Char) : Prop := [':', ':'] <:+: cs

theorem not_hasPair_nil : ¬ HasPair [] := by
  simp [HasPair]

theorem hasPair_cons_iff : HasPair (c :: cs) ↔ (c = ':' ∧ cs.head? = some ':') ∨ HasPair cs := by
  unfold HasPair
  rw [List.infix_cons_iff, List.cons_prefix_cons]
  cases cs with
  | nil => simp
  | cons d rest => simp [eq_comm]

/-- A pair does not reach across another character. -/
theorem hasPair_append_iff (apart : c ≠ ':') : HasPair (a ++ c :: b) ↔ HasPair a ∨ HasPair b := by
  induction a with
  | nil => simp [hasPair_cons_iff, not_hasPair_nil, apart]
  | cons d rest ih =>
    rw [List.cons_append, hasPair_cons_iff, hasPair_cons_iff, ih, or_assoc]
    cases rest with
    | nil => simp [apart]
    | cons e rest => simp

/-! ## The last part of a run -/

theorem afterLastPair_eq_none_iff : afterLastPair cs = none ↔ ¬ HasPair cs := by
  fun_induction afterLastPair cs with
  | case1 => simp [not_hasPair_nil]
  | case2 c rest part found ih =>
    rw [found] at ih
    simp [hasPair_cons_iff, show HasPair rest by simpa using ih]
  | case3 part none ih => simp [hasPair_cons_iff]
  | case4 c rest none single ih =>
    simp only [true_iff, hasPair_cons_iff, not_or]
    refine ⟨fun ⟨colon, opens⟩ => ?_, ih.1 none⟩
    obtain ⟨part, rfl⟩ := List.head?_eq_some_iff.1 opens
    exact single part colon rfl

-- Of overlapping pairs the later one counts, so no pair is left behind it.
theorem afterLastPair_eq_some (found : afterLastPair cs = some part) :
    ¬ HasPair part ∧ ∃ modules, cs = modules ++ ':' :: ':' :: part := by
  fun_induction afterLastPair cs with
  | case1 => simp at found
  | case2 c rest last below ih =>
    obtain ⟨free, modules, rfl⟩ := ih (below.trans found)
    exact ⟨free, c :: modules, rfl⟩
  | case3 last none ih =>
    obtain rfl := Option.some.inj found
    have free := afterLastPair_eq_none_iff.1 none
    rw [hasPair_cons_iff, not_or] at free
    exact ⟨free.2, [], rfl⟩
  | case4 => simp at found

theorem not_hasPair_lastPart (path : List Char) : ¬ HasPair (lastPart path) := by
  unfold lastPart
  cases found : afterLastPair path with
  | none => exact afterLastPair_eq_none_iff.1 found
  | some part => exact (afterLastPair_eq_some found).1

theorem lastPart_eq_self (free : ¬ HasPair path) : lastPart path = path := by
  rw [lastPart, afterLastPair_eq_none_iff.2 free]
  rfl

/-- What is cut off a run ends with a pair. -/
theorem lastPart_cases (path : List Char) :
    path = lastPart path ∨ ∃ modules, path = modules ++ ':' :: ':' :: lastPart path := by
  unfold lastPart
  cases found : afterLastPair path with
  | none => exact Or.inl rfl
  | some part => exact Or.inr (afterLastPair_eq_some found).2

theorem lastPart_suffix (path : List Char) : lastPart path <:+ path := by
  rcases lastPart_cases path with whole | ⟨modules, cut⟩
  · exact ⟨[], by rw [List.nil_append, ← whole]⟩
  · exact ⟨modules ++ [':', ':'], by simp [← cut]⟩

/-! ## Run by run -/

theorem ne_colon (between : isPathChar c = false) : c ≠ ':' := by
  rintro rfl
  simp [isPathChar] at between

theorem shortenFrom_run (run : ∀ c ∈ cs, isPathChar c = true) :
    shortenFrom path cs = lastPart (path ++ cs) := by
  induction cs generalizing path with
  | nil => simp [shortenFrom]
  | cons c rest ih =>
    obtain ⟨here, later⟩ := List.forall_mem_cons.1 run
    rw [shortenFrom, if_pos here, ih later]
    simp

theorem shorten_run (run : ∀ c ∈ path, isPathChar c = true) : shorten path = lastPart path :=
  shortenFrom_run run

theorem shortenFrom_append (between : isPathChar c = false) (a b : List Char) :
    shortenFrom path (a ++ c :: b) = shortenFrom path a ++ c :: shorten b := by
  induction a generalizing path with
  | nil => simp [shortenFrom, between, shorten]
  | cons d rest ih =>
    rw [List.cons_append, shortenFrom, shortenFrom]
    split
    · exact ih
    · rw [ih, List.append_assoc, List.cons_append]

theorem shorten_append (between : isPathChar c = false) (a b : List Char) :
    shorten (a ++ c :: b) = shorten a ++ c :: shorten b :=
  shortenFrom_append between a b

/-- A text is one run, or a run, a character that ends it, and a text. -/
@[elab_as_elim]
theorem runs_induction {motive : List Char → Prop}
    (run : ∀ path, (∀ c ∈ path, isPathChar c = true) → motive path)
    (cut : ∀ path c rest, (∀ c ∈ path, isPathChar c = true) → isPathChar c = false → motive rest →
      motive (path ++ c :: rest))
    (cs : List Char) : motive cs := by
  -- as in `shortenFrom`, the run so far is carried along
  have carried : ∀ path, (∀ c ∈ path, isPathChar c = true) → motive (path ++ cs) := by
    induction cs with
    | nil =>
      intro path all
      rw [List.append_nil]
      exact run path all
    | cons c rest ih =>
      intro path all
      by_cases continues : isPathChar c = true
      · have longer := ih (path ++ [c]) fun d mem => by
          rcases List.mem_append.1 mem with old | new
          · exact all d old
          · rwa [List.mem_singleton.1 new]
        rwa [List.append_assoc] at longer
      · exact cut path c rest all (by simpa using continues) (ih [] (by simp))
  exact carried [] (by simp)

theorem not_hasPair_shorten (cs : List Char) : ¬ HasPair (shorten cs) := by
  induction cs using runs_induction with
  | run path run =>
    rw [shorten_run run]
    exact not_hasPair_lastPart path
  | cut path c rest run between ih =>
    rw [shorten_append between, shorten_run run, hasPair_append_iff (ne_colon between), not_or]
    exact ⟨not_hasPair_lastPart path, ih⟩

theorem shorten_eq_self (free : ¬ HasPair cs) : shorten cs = cs := by
  induction cs using runs_induction with
  | run path run =>
    rw [shorten_run run]
    exact lastPart_eq_self free
  | cut path c rest run between ih =>
    rw [hasPair_append_iff (ne_colon between), not_or] at free
    rw [shorten_append between, shorten_run run, lastPart_eq_self free.1, ih free.2]

theorem shorten_eq_self_iff : shorten cs = cs ↔ ¬ HasPair cs := by
  refine ⟨fun same => ?_, shorten_eq_self⟩
  rw [← same]
  exact not_hasPair_shorten cs

theorem shorten_shorten (cs : List Char) : shorten (shorten cs) = shorten cs :=
  shorten_eq_self (not_hasPair_shorten cs)

theorem filter_run (run : ∀ c ∈ path, isPathChar c = true) :
    path.filter (fun c => !isPathChar c) = [] := by
  simpa using run

theorem filter_shorten (cs : List Char) :
    (shorten cs).filter (fun c => !isPathChar c) = cs.filter (fun c => !isPathChar c) := by
  have part : ∀ path, (∀ c ∈ path, isPathChar c = true) →
      (lastPart path).filter (fun c => !isPathChar c) = [] := fun path run =>
    filter_run fun c mem => run c ((lastPart_suffix path).subset mem)
  induction cs using runs_induction with
  | run path run => rw [shorten_run run, filter_run run, part path run]
  | cut path c rest run between ih =>
    rw [shorten_append between, shorten_run run, List.filter_append, List.filter_append,
      filter_run run, part path run, List.filter_cons, List.filter_cons, ih]

end ShortName

/-! ## Texts made of short names -/

/-- The key under its short name. -/
def TypeKey.shortened (k : TypeKey) : TypeKey := { k with name := k.shortName }

@[simp]
theorem TypeKey.shortName_shortened (k : TypeKey) : k.shortened.shortName = k.shortName := by
  unfold shortened shortName
  rw [String.toList_ofList, ShortName.shorten_shorten]

def FieldId.shortened (f : FieldId) : FieldId := { f with owner := f.owner.shortened }

@[simp]
theorem FieldId.text_shortened (f : FieldId) : f.shortened.text = f.text := by
  simp [text, shortened]

def SelectorFault.shortened : SelectorFault → SelectorFault
  | unknownMember type ident => .unknownMember type.shortened ident
  | fault => fault

@[simp]
theorem SelectorFault.reason_shortened (fault : SelectorFault) :
    fault.shortened.reason = fault.reason := by
  cases fault <;> simp [shortened, reason]

namespace QueryError

/-- The failure with every type in it under its short name. -/
def shortened : QueryError → QueryError
  | unsupportedSelector selector fault => .unsupportedSelector selector fault.shortened
  | duplicateParameter field name => .duplicateParameter field.shortened name
  | cyclicShape type path => .cyclicShape type.shortened path
  | endlessWrapper type => .endlessWrapper type.shortened
  | encode error => .encode error

@[simp]
theorem message_shortened (e : QueryError) : e.shortened.message = e.message := by
  unfold message shortened
  cases e with
  | unsupportedSelector selector fault => dsimp only; rw [fault.reason_shortened]
  | duplicateParameter field name => dsimp only; rw [field.text_shortened]
  | cyclicShape type path => dsimp only; rw [type.shortName_shortened]
  | endlessWrapper type => dsimp only; rw [type.shortName_shortened]
  | encode error => rfl

theorem kind_shortened (e : QueryError) : e.shortened.kind = e.kind := by
  cases e <;> rfl

theorem classifiedMessage_shortened (e : QueryError) :
    e.shortened.classifiedMessage = e.classifiedMessage := by
  rw [classifiedMessage, message_shortened, kind_shortened, classifiedMessage]

end QueryError

/-- **Shortening takes the module paths off and nothing else.** No pair of colons is left, and a text is
    left as it is exactly if it has none. What is no path character is kept, in order, and the texts
    before and after it are shortened each by itself; of a run of path characters all is kept behind its
    last pair. A short name is its own short name, so a field's identity and every failure read the same
    when the types in them have short names already. -/
theorem ShortName.shorten_strips (a b : List Char) :
    ¬ [':', ':'] <:+: shorten a ∧
    (shorten a = a ↔ ¬ [':', ':'] <:+: a) ∧
    (shorten a).filter (fun c => !isPathChar c) = a.filter (fun c => !isPathChar c) ∧
    (∀ c, isPathChar c = false → shorten (a ++ c :: b) = shorten a ++ c :: shorten b) ∧
    ((∀ c ∈ a, isPathChar c = true) →
      a = shorten a ∨ ∃ modules, a = modules ++ ':' :: ':' :: shorten a) ∧
    shorten (shorten a) = shorten a ∧
    (∀ key : TypeKey, key.shortened.shortName = key.shortName) ∧
    (∀ field : FieldId, field.shortened.text = field.text) ∧
    ∀ error : QueryError, error.shortened.message = error.message ∧
      error.shortened.classifiedMessage = error.classifiedMessage := by
  refine ⟨not_hasPair_shorten a, shorten_eq_self_iff, filter_shorten a, ?_, ?_, shorten_shorten a,
    TypeKey.shortName_shortened, FieldId.text_shortened, ?_⟩
  · intro c between
    exact shorten_append between a b
  · intro run
    rw [shorten_run run]
    exact lastPart_cases a
  · intro error
    exact ⟨error.message_shortened, error.classifiedMessage_shortened⟩

example : ShortName.shorten "alloc::vec::Vec<app::Foo>".toList = "Vec<Foo>".toList := by decide

end TypedQuery
