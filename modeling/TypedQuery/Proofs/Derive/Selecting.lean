import TypedQuery.Proofs.Derive.Words
import TypedQuery.Proofs.Query.Selecting

/-!
# `select_derived_iff` — which derived fields can be selected by name

The description and the table that are generated for a struct have the same names: those of the fields
without the marks of raw identifiers, under the key of the struct. A query finds such a name if its own
test for identifiers lets it through, and that test goes by letters and numbers (`Selector.IsIdentifier`)
where source text goes by the tables of identifiers. The two agree on ASCII. Beyond it the source has
identifiers that no selector spells: a combining mark continues an identifier and is neither a letter nor
a number.
-/

set_option autoImplicit false

namespace TypedQuery

namespace Derive

/-! ## What the generated code describes -/

namespace CompositeCode

variable {n : Nat} (code : CompositeCode) (owner : TypeKey)

/-- The description that is generated for a type, given the key of the type and what the types of
    members stand for. -/
def descriptor (types : List Token → Fin n) : Descriptor n :=
  ⟨owner, .composite
    (code.members.map fun member => ⟨⟨owner, member.name⟩, member.rename, types member.type⟩)⟩

/-- The table that is generated for a type: the identities of its fields, by the identifiers they are
    declared with. -/
def fieldTable : List (String × FieldId) :=
  code.initialisers.map fun initialiser => (initialiser.1, ⟨owner, initialiser.2⟩)

end CompositeCode

variable {item : Item} {fields : List Field} {code : CompositeCode} {field : Field}

theorem code_eq_of_derive (derived : item.derive = .ok (.composite code))
    (named : item.body = .named fields) : code = .ofFields fields := by
  unfold Item.derive at derived
  rw [named] at derived
  dsimp only at derived
  split_ifs at derived
  · exact absurd derived (by simp)
  · exact (Generated.composite.inj (Except.ok.inj derived)).symm

theorem mem_selectedFields (mem : field ∈ fields) (kept : field.options.options.skip = false) :
    (field, field.options.options) ∈ selectedFields fields := by
  simp [selectedFields, mem, kept]

theorem mem_fieldTable_iff (mem : field ∈ fields) (kept : field.options.options.skip = false)
    {owner : TypeKey} {id : FieldId} :
    (field.ident, id) ∈ (CompositeCode.ofFields fields).fieldTable owner ↔
      id = ⟨owner, plainName field.ident⟩ := by
  constructor
  · intro listed
    obtain ⟨initialiser, initialised, same⟩ := List.mem_map.1 listed
    obtain ⟨selected, -, rfl⟩ := List.mem_map.1 initialised
    obtain ⟨ident, rfl⟩ := Prod.mk.inj same
    rw [← ident]
  · rintro rfl
    refine List.mem_map.2 ⟨(field.ident, plainName field.ident), ?_, rfl⟩
    exact List.mem_map.2 ⟨_, mem_selectedFields mem kept, rfl⟩

/-- The description has a member for a field that is not left out, and all members of its name have
    the identity that the table has. -/
theorem exists_member (mem : field ∈ fields) (kept : field.options.options.skip = false)
    {n : Nat} (owner : TypeKey) (types : List Token → Fin n) :
    ∃ m, ((CompositeCode.ofFields fields).descriptor owner types).member? (plainName field.ident) =
      some m ∧ m.id = ⟨owner, plainName field.ident⟩ := by
  cases found : ((CompositeCode.ofFields fields).descriptor owner types).member?
      (plainName field.ident) with
  | none =>
    have member : MemberCode.mk (plainName field.ident) field.type field.options.options.rename ∈
        (CompositeCode.ofFields fields).members :=
      List.mem_map.2 ⟨_, mem_selectedFields mem kept, rfl⟩
    exact absurd rfl (Selector.member?_eq_none_iff.1 found _ (List.mem_map_of_mem member))
  | some m =>
    refine ⟨m, rfl, ?_⟩
    obtain ⟨name, -⟩ := Selector.member?_eq_some_iff.1 found
    obtain ⟨member, -, rfl⟩ := List.mem_map.1 (List.mem_of_find?_eq_some found)
    exact congrArg (FieldId.mk owner) name

end Derive

namespace Selector

variable {name : List Char}

/-- Of ASCII a selector takes every identifier but the underscore. -/
theorem isIdentifier_of_ascii (identifier : Text.isIdentifier name = true)
    (ascii : ∀ c ∈ name, c.toNat < 128) (named : name ≠ ['_']) : IsIdentifier name := by
  obtain ⟨c, rest, rfl⟩ := List.exists_cons_of_ne_nil (Text.ne_nil_of_isIdentifier identifier)
  obtain ⟨start, continues⟩ := Bool.and_eq_true_iff.1 identifier
  obtain ⟨first, later⟩ := List.forall_mem_cons.1 ascii
  refine ⟨⟨c, rfl, ?_⟩, ?_, named⟩
  · rw [Text.isAlphabetic_of_ascii first]
    simpa [Text.isIdentifierStart, Nat.not_le.2 first, or_comm] using start
  · intro d mem
    have here := List.all_eq_true.1 continues d mem
    rw [Text.isAlphanumeric_of_ascii (later d mem)]
    simpa [Text.isIdentifierContinue, Nat.not_le.2 (later d mem), or_comm] using here

theorem resolve_marked {n : Nat} {root : Descriptor n} {selector name : String} {mark : List Char}
    (identifier : Text.isIdentifier name.toList = true) (marked : mark = [] ∨ mark = ['r', '#'])
    (text : selector.toList = mark ++ name.toList) {m : Member n} (found : root.member? name = some m) :
    resolve root selector = if isIdentifier name.toList then .ok m
      else .error (.unsupportedSelector selector .notIdentifier) := by
  have trimmed : Text.trim selector.toList = mark ++ name.toList := by
    rw [text, Text.trim_marked identifier marked]
  have plain : ident selector.toList = name.toList := by
    rw [ident, trimmed, Text.unmarked_marked identifier marked]
  -- an identifier has no bracket and no dot, so what is wrong with it is that it is none to selectors
  have absent : ∀ c, (Text.isIdentifierStart c || Text.isIdentifierContinue c) = false →
      c ∉ ['r', '#'] → c ∉ mark ++ name.toList := by
    intro c outside noMark mem
    rcases List.mem_append.1 mem with here | there
    · rcases marked with rfl | rfl
      · exact absurd here List.not_mem_nil
      · exact noMark here
    · exact Text.not_mem_identifier identifier outside there
  have reason : fault (mark ++ name.toList) = .notIdentifier := by
    have nonempty := Text.ne_nil_of_isIdentifier identifier
    have noCall := absent '(' (by decide) (by decide)
    have noChain := absent '.' (by decide) (by decide)
    simp [fault, nonempty, noCall, noChain]
  unfold resolve
  dsimp only
  rw [plain, trimmed, String.ofList_toList, found, reason]

end Selector

namespace Derive

section Selection

variable {item : Item} {fields : List Field} {code : CompositeCode} {field : Field} {S : Schema}
  {q : Query S} {owner : TypeKey} {types : List Token → S.Ref} {name selector : String}

theorem select_eq (described : q.descriptor = (CompositeCode.ofFields fields).descriptor owner types)
    (mem : field ∈ fields) (kept : field.options.options.skip = false)
    (plain : plainName field.ident = name) (identifier : Text.isIdentifier name.toList = true)
    (spelled : selector = name ∨ selector = "r#" ++ name) :
    q.select selector = if Selector.isIdentifier name.toList then .ok ⟨owner, name⟩
      else .error (.unsupportedSelector selector .notIdentifier) := by
  obtain ⟨m, found, id⟩ := exists_member mem kept owner types
  obtain ⟨mark, marked, text⟩ : ∃ mark, (mark = [] ∨ mark = ['r', '#']) ∧
      selector.toList = mark ++ name.toList := by
    rcases spelled with rfl | rfl
    · exact ⟨[], Or.inl rfl, rfl⟩
    · exact ⟨['r', '#'], Or.inr rfl, String.toList_append ..⟩
  rw [plain] at found id
  rw [Query.select, described, Selector.resolve_marked identifier marked text found]
  split
  · rw [← id]
    rfl
  · rfl

/-- **A derived field can be selected by its name if that is letters, numbers and underscores.** For a
    field that is not left out, whatever the declaration is read from, the generated table has one
    identity, and the plain name is an identifier. Selecting by that name, behind a mark or not, finds
    the identity of the table exactly if the name is an identifier to selectors as well, which it always
    is in ASCII, the underscore alone excepted. Every other name is refused. Where the name is found, it
    does not matter by which of the two the field is changed. -/
theorem select_derived_iff {d : Declaration} (read : d.read.Gives item)
    (named : item.body = .named fields) (derived : item.derive = .ok (.composite code))
    (described : q.descriptor = code.descriptor owner types) (mem : field ∈ fields)
    (kept : field.options.options.skip = false) (plain : plainName field.ident = name)
    (spelled : selector = name ∨ selector = "r#" ++ name) :
    ∃ id, (∀ other, (field.ident, other) ∈ code.fieldTable owner ↔ other = id) ∧
      Text.isIdentifier name.toList = true ∧
      (q.select selector = .ok id ↔ Selector.IsIdentifier name.toList) ∧
      (¬ Selector.IsIdentifier name.toList →
        q.select selector = .error (.unsupportedSelector selector .notIdentifier)) ∧
      ((∀ c ∈ name.toList, c.toNat < 128) → name ≠ "_" → Selector.IsIdentifier name.toList) ∧
      (Selector.IsIdentifier name.toList → ∀ (changes : List Change) (registry : Registry),
        (q.attach ⟨selector, changes⟩).text registry = (q.changeAll id changes).text registry) := by
  obtain rfl := code_eq_of_derive derived named
  have identifier : Text.isIdentifier name.toList = true := by
    rw [← plain]
    exact isWord_of_read read named field mem
  have selects := select_eq described mem kept plain identifier spelled
  refine ⟨⟨owner, name⟩, ?_, identifier, ?_, ?_, ?_, ?_⟩
  · intro other
    rw [mem_fieldTable_iff mem kept, plain]
  · rw [selects, ← Selector.isIdentifier_iff]
    split <;> simp_all
  · intro other
    rw [← Selector.isIdentifier_iff] at other
    rw [selects, if_neg other]
  · intro ascii apart
    refine Selector.isIdentifier_of_ascii identifier ascii ?_
    intro underscore
    exact apart (String.toList_inj.1 underscore)
  · intro spells changes registry
    rw [← Selector.isIdentifier_iff] at spells
    rw [Query.attach, selects, if_pos spells]

end Selection

/-! ## A struct with a raw field and a marked letter -/

/-- A struct of two fields: a keyword as a raw identifier, and a letter with a combining accent. -/
def accented : Declaration :=
  { visibility := ""
    ident := "Word"
    generics := []
    predicates := []
    attributes := []
    body := .named [⟨"", "r#type", "u8", []⟩, ⟨"", "x\u0301", "u8", []⟩] }

namespace accented

def raw : Field := ⟨"r#type", [.atom "u8"], []⟩

def combining : Field := ⟨"x\u0301", [.atom "u8"], []⟩

def item : Item := ⟨"Word", [], [], [], [], .named [raw, combining]⟩

def code : CompositeCode := .ofFields [raw, combining]

/-- Both fields are of the one type there is beside the struct. -/
def types : List Token → Fin 2 := fun _ => Fin.last 1

def schema : Schema :=
  .ofDeclarations fun i : Fin 2 => if i = Fin.last 1 then (⟨30, "u8"⟩, .scalar) else
    (⟨31, "Word"⟩, .composite (code.descriptor ⟨31, "Word"⟩ types).members)

def query : Query schema := .new (Fin.last 0).castSucc Encoder.default QueryConfig.default

set_option maxRecDepth 20000 in
theorem read_item : accented.read.Gives item := by rfl

theorem derive_item : item.derive = .ok (.composite code) := by rfl

theorem descriptor_query : query.descriptor = code.descriptor ⟨31, "Word"⟩ types := by rfl

theorem select_raw_type :
    accented.read.Gives item ∧ (raw.ident, ⟨⟨31, "Word"⟩, "type"⟩) ∈ code.fieldTable ⟨31, "Word"⟩ ∧
      query.select "r#type" = .ok ⟨⟨31, "Word"⟩, "type"⟩ := by
  have plain : plainName raw.ident = "type" := by rfl
  have spells : Selector.IsIdentifier "type".toList := Selector.isIdentifier_iff.1 (by decide)
  obtain ⟨id, entries, -, selects, -⟩ := select_derived_iff read_item rfl derive_item
    descriptor_query (by simp) (by rfl) plain (Or.inr rfl)
  have entry : (raw.ident, ⟨⟨31, "Word"⟩, "type"⟩) ∈ code.fieldTable ⟨31, "Word"⟩ :=
    List.mem_cons_self
  refine ⟨read_item, entry, ?_⟩
  rw [(entries _).1 entry]
  exact selects.2 spells

/-- The derive accepts the letter with its accent, and no query selects it. -/
theorem combining_unselected :
    ¬ ∀ (d : Declaration) (item : Item) (fields : List Field) (code : CompositeCode) (S : Schema)
      (q : Query S) (owner : TypeKey) (types : List Token → S.Ref) (field : Field) (id : FieldId),
      d.read.Gives item → item.body = .named fields → item.derive = .ok (.composite code) →
      q.descriptor = code.descriptor owner types → field ∈ fields →
      field.options.options.skip = false → (field.ident, id) ∈ code.fieldTable owner →
        q.select (plainName field.ident) = .ok id := by
  intro selects
  have mem : combining ∈ [raw, combining] := by simp
  have found := selects accented item _ code schema query ⟨31, "Word"⟩ types combining
    ⟨⟨31, "Word"⟩, "x\u0301"⟩ read_item rfl derive_item descriptor_query mem (by rfl)
    (List.mem_cons_of_mem _ List.mem_cons_self)
  have plain : plainName combining.ident = "x\u0301" := by rfl
  have identifier : Text.isIdentifier "x\u0301".toList = true := by decide +kernel
  have noSelector : Selector.isIdentifier "x\u0301".toList = false := by decide +kernel
  rw [plain, select_eq descriptor_query mem (by rfl) plain identifier (Or.inl rfl), noSelector] at found
  exact absurd found (by simp)

end accented

end Derive

end TypedQuery
