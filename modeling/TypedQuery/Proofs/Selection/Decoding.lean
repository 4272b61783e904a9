import TypedQuery.Proofs.Literal.Roundtrip
import TypedQuery.Proofs.Selection.Reader

/-!
# `ofText?_text` — a selection is decoded from its text

Two halves meet here. Read forwards, the text of a well-formed selection is read as that selection:
each part ends before a character that the part itself cannot contain, names before punctuation,
literals before a comma or a parenthesis, fields before a space or a brace, and this is carried from
the heads to the fields by induction on the tree. Read backwards, the reader is exact: **a text is
read as a selection only if it is the text of that selection**. So the text and the selection
determine each other, and no two selections have one text.
-/

set_option autoImplicit false

namespace TypedQuery

open Reader

/-! ## Texts as characters -/

theorem FieldHead.toList_text (h : FieldHead) :
    h.text.toList = h.name.toList ++ (h.aliasText.toList ++ h.argumentsText.toList) := by
  unfold text
  rw [String.toList_append, String.toList_append, List.append_assoc]

theorem FieldHead.toList_argumentText (argument : String × String) :
    (argumentText argument).toList = argument.1.toList ++ ':' :: argument.2.toList := by
  unfold argumentText
  rw [String.toList_append, String.toList_append, List.append_assoc]
  rfl

theorem FieldHead.toList_argumentsText {h : FieldHead} (nonempty : h.arguments ≠ []) :
    h.argumentsText.toList = '(' ::
      joined ',' true (h.arguments.map fun a => a.1.toList ++ ':' :: a.2.toList) ++ [')'] := by
  have pieces : (h.arguments.map argumentText).map String.toList =
      h.arguments.map fun a => a.1.toList ++ ':' :: a.2.toList := by
    rw [List.map_map]
    exact List.map_congr_left fun a _ => toList_argumentText a
  unfold argumentsText
  split
  · rename_i none
    exact absurd none nonempty
  · rw [String.toList_append, String.toList_append, String.toList_intercalate, pieces,
      joined_eq_intercalate]
    rfl

theorem toList_fieldsText (fields : List SelectionField) :
    (" ".intercalate (fields.map SelectionField.text)).toList =
      joined ' ' true (fields.map (·.text.toList)) := by
  rw [String.toList_intercalate, List.map_map, joined_eq_intercalate]
  rfl

theorem SelectionField.toList_text_nested (head : FieldHead) (fields : List SelectionField) :
    (nested head fields).text.toList =
      head.text.toList ++ '\x7b' :: (joined ' ' true (fields.map (·.text.toList)) ++ ['\x7d']) := by
  rw [text, texts_eq_map, String.toList_append, String.toList_append, String.toList_append,
    toList_fieldsText, List.append_assoc, List.append_assoc]
  rfl

theorem SelectionSet.toList_text (s : SelectionSet) :
    s.text.toList = '\x7b' :: (joined ' ' true (s.fields.map (·.text.toList)) ++ ['\x7d']) := by
  unfold text
  rw [String.toList_append, String.toList_append, toList_fieldsText, List.append_assoc]
  rfl

/-! ## The text of a well-formed selection is read -/

/-- What may follow the head of a field. -/
def FieldHead.ends : List Char := [' ', '\x7b', '\x7d']

theorem Literal.reads_raw {v : Value} {text : String} (encoded : v.literal = .ok text) :
    readRaw.Reads ends text.toList text := by
  intro rest follows
  unfold readRaw
  rw [Value.reads_literal encoded rest follows, Option.map_some, List.length_append,
    Nat.add_sub_cancel, List.take_left, List.drop_left, String.ofList_toList]

namespace FieldHead

variable {h : FieldHead}

theorem follows_aliasText (h : FieldHead) : Follows [':'] h.aliasText.toList := by
  unfold aliasText
  split
  · exact follows_nil _
  · rw [String.toList_append]
    exact follows_cons (by decide) _

theorem follows_argumentsText (h : FieldHead) : Follows ['('] h.argumentsText.toList := by
  by_cases none : h.arguments = []
  · unfold argumentsText
    rw [none]
    exact follows_nil _
  · rw [toList_argumentsText none]
    exact follows_cons (by decide) _

theorem reads_alias (wf : h.WellFormed) :
    readAlias.Reads ('(' :: ends) h.aliasText.toList h.aliasName := by
  intro rest follows
  unfold aliasText readAlias
  cases given : h.aliasName with
  | none => exact if_neg (follows.head?_ne (by decide))
  | some aliasName =>
    have stops : ∀ c ∈ rest.head?, Text.isNameContinue c = false := follows.stops (by decide)
    have text : (":" ++ aliasName).toList ++ rest = ':' :: (aliasName.toList ++ rest) := by
      rw [String.toList_append]
      rfl
    dsimp only
    rw [text, List.head?_cons, if_pos rfl, List.tail_cons,
      name_append (wf.aliasName aliasName given) stops]
    rfl

theorem reads_arguments (wf : h.WellFormed) :
    readArguments.Reads ends h.argumentsText.toList h.arguments := by
  intro rest follows
  by_cases none : h.arguments = []
  · have text : h.argumentsText.toList = [] := by
      unfold argumentsText
      rw [none]
      rfl
    rw [text, none]
    exact if_neg (follows.head?_ne (by decide))
  · have reads : ∀ a ∈ h.arguments, (entry Literal.readRaw).Reads [',', ')']
        (a.1.toList ++ ':' :: a.2.toList) (id a) := by
      intro a mem
      obtain ⟨isName, v, encoded⟩ := wf.arguments a mem
      exact reads_entry isName ((Literal.reads_raw encoded).mono (by decide))
    have opens : ∀ a ∈ h.arguments, Opens (· ≠ ')') (a.1.toList ++ ':' :: a.2.toList) := by
      intro a mem
      exact ((Literal.spells_word (wf.arguments a mem).1).opens_ne (by decide)).append _
    have whole := reads_list (by decide) reads opens rest
    have given : (!h.arguments.isEmpty) = true := by
      rw [List.isEmpty_eq_false_iff.2 none]
      rfl
    unfold readArguments
    rw [toList_argumentsText none, List.append_assoc, List.cons_append, List.head?_cons,
      if_pos rfl, List.tail_cons]
    show Option.filter _ (Reader.list (entry Literal.readRaw) ',' ')' (joined ',' true
      (h.arguments.map fun a => a.1.toList ++ ':' :: a.2.toList) ++ ')' :: rest)) = _
    rw [whole, List.map_id]
    exact Option.filter_some_pos given

theorem WellFormed.reads (wf : h.WellFormed) : read.Reads ends h.text.toList h := by
  intro rest follows
  have afterAlias : Follows ('(' :: ends) (h.argumentsText.toList ++ rest) := by
    refine Follows.append ?_ (follows.mono (by decide))
    exact h.follows_argumentsText.mono (by decide)
  have afterName : Follows (':' :: '(' :: ends)
      (h.aliasText.toList ++ (h.argumentsText.toList ++ rest)) := by
    refine Follows.append ?_ (afterAlias.mono (by decide))
    exact h.follows_aliasText.mono (by decide)
  have stops : ∀ c ∈ (h.aliasText.toList ++ (h.argumentsText.toList ++ rest)).head?,
      Text.isNameContinue c = false := afterName.stops (by decide)
  rw [toList_text, List.append_assoc, List.append_assoc]
  refine Option.bind_eq_some_iff.2 ⟨_, name_append wf.name stops, ?_⟩
  refine Option.bind_eq_some_iff.2 ⟨_, reads_alias wf _ afterAlias, ?_⟩
  exact Option.bind_eq_some_iff.2 ⟨_, reads_arguments wf rest follows, rfl⟩

theorem WellFormed.opens (wf : h.WellFormed) : Opens (· ≠ '\x7d') h.text.toList := by
  rw [toList_text]
  exact ((Literal.spells_word wf.name).opens_ne (by decide)).append _

end FieldHead

namespace SelectionField

theorem WellFormed.opens {field : SelectionField} (wf : field.WellFormed) :
    Opens (· ≠ '\x7d') field.text.toList := by
  cases wf with
  | leaf head => exact head.opens
  | nested head fields =>
    rw [toList_text_nested]
    exact head.opens.append _

/-- Fields that are each read are read together, up to the closing brace. -/
theorem reads_fields {fields : List SelectionField} (wf : ∀ f ∈ fields, f.WellFormed)
    {depth : Nat}
    (reads : ∀ f ∈ fields, (readWithin depth).Reads [' ', '\x7d'] f.text.toList f)
    (rest : List Char) :
    Reader.list (readWithin depth) ' ' '\x7d'
        (joined ' ' true (fields.map (·.text.toList)) ++ '\x7d' :: rest) = some (fields, rest) := by
  have each : ∀ f ∈ fields, (readWithin depth).Reads [' ', '\x7d'] f.text.toList (id f) := reads
  have whole := reads_list (by decide) each (fun f mem => (wf f mem).opens) rest
  rwa [List.map_id] at whole

/-- **The text of a well-formed field is read as that field.** The induction is on the tree; a field
    in a selection has less than the depth that the length of the whole allows. -/
theorem reads {field : SelectionField} (wf : field.WellFormed) (depth : Nat)
    (enough : field.text.toList.length ≤ depth) :
    (readWithin depth).Reads [' ', '\x7d'] field.text.toList field := by
  induction wf generalizing depth with
  | @leaf head wf =>
    intro rest follows
    have positive := wf.opens.length_pos
    obtain ⟨depth, rfl⟩ := Nat.exists_eq_add_of_le' (Nat.le_trans positive enough)
    refine Option.bind_eq_some_iff.2 ⟨_, wf.reads rest (follows.mono (by decide)), ?_⟩
    exact if_neg (follows.head?_ne (by decide))
  | @nested head fields wf wfFields ih =>
    intro rest follows
    rw [toList_text_nested] at enough ⊢
    rw [List.length_append, List.length_cons, List.length_append] at enough
    have positive := wf.opens.length_pos
    obtain ⟨depth, rfl⟩ : ∃ inside, depth = inside + 1 := ⟨depth - 1, by omega⟩
    have fieldsRead : ∀ f ∈ fields, (readWithin depth).Reads [' ', '\x7d'] f.text.toList f := by
      intro f listed
      have inside := length_le_of_mem_joined ' '
        (List.mem_map_of_mem (f := (·.text.toList)) listed) true
      exact ih f listed depth (by omega)
    have selection := reads_fields wfFields fieldsRead rest
    rw [List.append_assoc, List.cons_append, List.append_assoc]
    refine Option.bind_eq_some_iff.2 ⟨_, wf.reads _ (follows_cons (by decide) _), ?_⟩
    dsimp only
    rw [List.head?_cons, if_pos rfl, List.tail_cons]
    exact congrArg (Option.map fun r => (nested head r.1, r.2)) selection

end SelectionField

theorem SelectionSet.ofText?_text {s : SelectionSet} (wf : s.WellFormed) :
    ofText? s.text = some s := by
  have inside : expect '\x7b' s.text.toList =
      some (joined ' ' true (s.fields.map (·.text.toList)) ++ ['\x7d']) := by
    rw [toList_text]
    exact expect_cons _ _
  refine Option.bind_eq_some_iff.2 ⟨_, inside, ?_⟩
  refine Option.bind_eq_some_iff.2 ⟨_, SelectionField.reads_fields wf ?_ [], if_pos rfl⟩
  intro f listed
  refine SelectionField.reads (wf f listed) _ ?_
  rw [List.length_append]
  exact Nat.le_add_right_of_le (length_le_of_mem_joined ' '
    (List.mem_map_of_mem (f := (·.text.toList)) listed) true)

/-! ## Nothing but its text is read as a selection -/

theorem Literal.exact_raw : readRaw.Exact String.toList := by
  intro cs text rest read
  obtain ⟨r, -, kept⟩ := Option.map_eq_some_iff.1 read
  obtain ⟨rfl, rfl⟩ := Prod.mk.inj kept
  rw [String.toList_ofList, List.take_append_drop]

namespace FieldHead

/-- The characters of an alias, for any head that has it. -/
theorem exact_alias {cs rest : List Char} {h : FieldHead}
    (read : readAlias cs = some (h.aliasName, rest)) : cs = h.aliasText.toList ++ rest := by
  unfold readAlias at read
  unfold aliasText
  split at read
  · rename_i colon
    obtain ⟨r, named, given⟩ := Option.map_eq_some_iff.1 read
    obtain ⟨aliasName, rfl⟩ := Prod.mk.inj given
    rw [← aliasName, eq_cons_of_head? colon, exact_name _ r.1 r.2 named]
    dsimp only
    rw [String.toList_append]
    rfl
  · obtain ⟨aliasName, rfl⟩ := Prod.mk.inj (Option.some.inj read)
    rw [← aliasName]
    rfl

theorem exact_arguments {cs rest : List Char} {h : FieldHead}
    (read : readArguments cs = some (h.arguments, rest)) : cs = h.argumentsText.toList ++ rest := by
  unfold readArguments at read
  split at read
  · rename_i paren
    obtain ⟨listed, nonempty⟩ := Option.filter_eq_some_iff.1 read
    have given : h.arguments ≠ [] := by
      rintro none
      rw [none] at nonempty
      exact absurd nonempty nofun
    rw [toList_argumentsText given, eq_cons_of_head? paren,
      exact_list (exact_entry Literal.exact_raw) _ _ rest listed]
    simp
  · obtain ⟨arguments, rfl⟩ := Prod.mk.inj (Option.some.inj read)
    unfold argumentsText
    rw [← arguments]
    rfl

theorem exact_read : read.Exact (·.text.toList) := by
  intro cs h rest read
  obtain ⟨⟨name, afterName⟩, named, read⟩ := Option.bind_eq_some_iff.1 read
  obtain ⟨⟨aliasName, afterAlias⟩, aliased, read⟩ := Option.bind_eq_some_iff.1 read
  obtain ⟨⟨arguments, afterArguments⟩, supplied, read⟩ := Option.bind_eq_some_iff.1 read
  obtain ⟨rfl, rfl⟩ := Prod.mk.inj (Option.some.inj read)
  have nameText : cs = name.toList ++ afterName := exact_name cs name afterName named
  have aliasText := exact_alias (h := ⟨name, aliasName, arguments⟩) aliased
  have argumentsText := exact_arguments (h := ⟨name, aliasName, arguments⟩) supplied
  dsimp only at aliasText argumentsText ⊢
  rw [nameText, aliasText, argumentsText, toList_text, List.append_assoc, List.append_assoc]

end FieldHead

theorem SelectionField.exact_readWithin (depth : Nat) :
    (readWithin depth).Exact (·.text.toList) := by
  induction depth with
  | zero => exact fun cs field rest read => absurd read nofun
  | succ depth ih =>
    intro cs field rest read
    obtain ⟨⟨head, afterHead⟩, headed, read⟩ := Option.bind_eq_some_iff.1 read
    have headText : cs = head.text.toList ++ afterHead :=
      FieldHead.exact_read cs head afterHead headed
    dsimp only at read
    split at read
    · rename_i brace
      obtain ⟨r, listed, given⟩ := Option.map_eq_some_iff.1 read
      obtain ⟨rfl, rfl⟩ := Prod.mk.inj given
      have fieldsText := exact_list ih _ r.1 r.2 listed
      rw [headText, eq_cons_of_head? brace, fieldsText]
      dsimp only
      rw [toList_text_nested]
      simp
    · obtain ⟨rfl, rfl⟩ := Prod.mk.inj (Option.some.inj read)
      exact headText

theorem SelectionSet.eq_text_of_ofText? {s : SelectionSet} {text : String}
    (decoded : ofText? text = some s) : text = s.text := by
  obtain ⟨inside, opened, decoded⟩ := Option.bind_eq_some_iff.1 decoded
  obtain ⟨⟨fields, rest⟩, listed, decoded⟩ := Option.bind_eq_some_iff.1 decoded
  split at decoded
  · rename_i nothing
    obtain rfl := Option.some.inj decoded
    have exact := SelectionField.exact_readWithin inside.length
    have fieldsText := exact_list exact _ fields rest listed
    rw [← String.toList_inj, toList_text, eq_cons_of_expect opened, fieldsText]
    dsimp only at nothing ⊢
    rw [nothing, List.append_nil]
  · exact absurd decoded nofun

/-- **A well-formed selection and its text determine each other**: the selection, with aliases,
    arguments and empty selections as they are, is what is read of its text, of which nothing is
    left over; it is read of no other text; and no other well-formed selection has that text. -/
theorem SelectionSet.text_decodes {s : SelectionSet} (wf : s.WellFormed) :
    (∀ text, ofText? text = some s ↔ text = s.text) ∧
      ∀ s' : SelectionSet, s'.WellFormed → s'.text = s.text → s' = s := by
  have decoded := ofText?_text wf
  refine ⟨fun text => ⟨eq_text_of_ofText?, fun same => same ▸ decoded⟩, ?_⟩
  intro s' wf' same
  have decoded' := ofText?_text wf'
  rw [same, decoded] at decoded'
  exact (Option.some.inj decoded').symm

namespace SelectionSet

/-- A field with an alias and with arguments that contain the punctuation of selections, and below
    it a leaf and a composite of which nothing is selected. -/
def punctuated : SelectionSet :=
  ⟨[.nested ⟨"foo", some "bar", [("x", "\"a)\x7d,\\\"\""), ("y", "[1,\x7bk:null\x7d]")]⟩
      [.leaf ⟨"id", none, []⟩, .nested ⟨"sub", none, []⟩ []],
    .leaf ⟨"baz", none, []⟩]⟩

theorem punctuated_decodes :
    punctuated.WellFormed ∧
      ofText? "\x7bfoo:bar(x:\"a)\x7d,\\\"\",y:[1,\x7bk:null\x7d])\x7bid sub\x7b\x7d\x7d baz\x7d" =
        some punctuated := by
  have bare : ∀ name ∈ ["id", "sub", "baz"], (FieldHead.mk name none []).WellFormed := by
    intro name mem
    refine ⟨?_, nofun, nofun⟩
    have names : ∀ name ∈ ["id", "sub", "baz"], Text.isName name.toList = true := by decide
    exact names name mem
  have foo : (FieldHead.mk "foo" (some "bar")
      [("x", "\"a)\x7d,\\\"\""), ("y", "[1,\x7bk:null\x7d]")]).WellFormed := by
    refine ⟨by decide, ?_, ?_⟩
    · intro aliasName given
      obtain rfl := Option.some.inj given
      decide
    · refine List.forall_mem_cons.2 ⟨⟨by decide, .text "a)\x7d,\"", rfl⟩, ?_⟩
      exact List.forall_mem_singleton.2
        ⟨by decide, .list [.uint 1, .object [("k", .null)]], rfl⟩
  have wf : punctuated.WellFormed := by
    refine List.forall_mem_cons.2 ⟨.nested foo ?_, List.forall_mem_singleton.2 ?_⟩
    · refine List.forall_mem_cons.2 ⟨.leaf (bare "id" (by decide)), ?_⟩
      exact List.forall_mem_singleton.2 (.nested (bare "sub" (by decide)) nofun)
    · exact .leaf (bare "baz" (by decide))
  exact ⟨wf, ((text_decodes wf).1 _).2 (by rfl)⟩

end SelectionSet

end TypedQuery
