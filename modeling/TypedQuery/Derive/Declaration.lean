import TypedQuery.Derive.Code

/-!
# `Declaration` — an item as it is declared in source text

The pieces of a declaration are texts: names, types, generic parameters, predicates and
visibilities, and the keys of attribute entries. Reading them gives the item, or the first error
in the order of the text. A piece that consists of no tokens makes the declaration unreadable.
-/

set_option autoImplicit false

namespace TypedQuery.Derive

/-- The value of an attribute entry: a literal. -/
inductive LiteralValue where
  | text (s : String)
  | bool (b : Bool)
  | int (n : Int)

/-- An attribute entry: its key, and its value if it has one. -/
structure EntryText where
  key : String
  value : Option LiteralValue

/-- A field; those of tuples have no use for their names. -/
structure FieldText where
  visibility : String
  ident : String
  type : String
  attributes : List (List EntryText)

/-- A variant. -/
structure VariantText where
  ident : String
  style : VariantStyle
  fields : List FieldText
  attributes : List (List EntryText)

/-- The body of a declaration. -/
inductive BodyText where
  | named (fields : List FieldText)
  | tuple (fields : List FieldText)
  | unit
  | union (fields : List FieldText)
  | enum (variants : List VariantText)

/-- A declaration. -/
structure Declaration where
  visibility : String
  ident : String
  generics : List String
  predicates : List String
  attributes : List (List EntryText)
  body : BodyText

/-- Reading ends with a value, with an error, or with nothing for what consists of no tokens. -/
abbrev Reading := ExceptT DeriveError Option

/-- Reads what consists of tokens. -/
def readable {α : Type} (value : Option α) : Reading α := ExceptT.mk (value.map .ok)

/-! ## Attributes -/

namespace EntryText

/-- A word that may be part of a key. -/
def isKeyPart (word : String) : Bool :=
  !isKeyword word || ["super", "self", "Self", "crate"].contains word

/-- Reads the parts of a key and the tokens behind it. -/
def readKeyParts : List SourceToken → Except DeriveError (List String × List SourceToken)
  | .word part :: .mark ':' true :: .mark ':' _ :: rest =>
    if isKeyPart part then
      match rest with
      | .word next :: _ =>
        if isKeyPart next then
          (readKeyParts rest).map fun (parts, rest) => (part :: parts, rest)
        else .error (.expected "path segment after `::`")
      | _ => .error (.expected "path segment after `::`")
    else .error (.keyword part)
  | .word part :: rest => if isKeyPart part then .ok ([part], rest) else .error (.keyword part)
  | _ => .error (.expected "identifier")

/-- Reads a key and the tokens behind it; pairs of colons join its parts. One word more than in
    other places may be a key of one part. -/
def readKey : List SourceToken → Except DeriveError (String × List SourceToken)
  | .word "unsafe" :: rest => .ok ("unsafe", rest)
  | tokens => (readKeyParts tokens).map fun (parts, rest) => ("::".intercalate parts, rest)

/-- The value of an entry. A negative number is a literal where nothing follows it, and else an
    expression. -/
def metaValue (last : Bool) : LiteralValue → MetaValue
  | .text s => .text s
  | .bool b => .bool b
  | .int n => .other (if n < 0 && !last then "unary" else "int")

/-- A literal that stands for itself is no entry. -/
def literalItem : MetaItem := .invalid (.unexpectedFormat "literal")

/-- Reads an entry of the given key, of which there is none where the key is missing at the
    end. -/
def ofTokens (key : List SourceToken) (value : Option LiteralValue) (last : Bool) :
    Except DeriveError (List MetaItem) :=
  let plain (rest : List SourceToken) (item : MetaItem) : Except DeriveError (List MetaItem) :=
    if rest.isEmpty then .ok [item] else .error (.expected "`,`")
  let named (tokens : List SourceToken) : Except DeriveError (List MetaItem) := do
    let (name, rest) ← readKey tokens
    match value, rest with
    | some v, rest => plain rest (.named name (metaValue last v))
    | none, .group _ _ :: rest => plain rest (.named name .list)
    | none, rest => plain rest (.named name .word)
  match key, value with
  | [], none => if last then .ok [] else .error (.expected "identifier or literal")
  | .literal _ :: rest, none => plain rest literalItem
  | .mark '-' _ :: .literal _ :: rest, none => plain rest literalItem
  | .word "true" :: rest, none => plain rest literalItem
  | .word "false" :: rest, none => plain rest literalItem
  | .literal _ :: _, some _ => .error (.expected "`,`")
  | .mark '-' _ :: .literal _ :: _, some _ => .error (.expected "`,`")
  | .word _ :: _, _ => named key
  | .mark ':' true :: .mark ':' _ :: .word part :: rest, _ => named (.word part :: rest)
  | _, _ => .error (.expected "identifier or literal")

/-- Splits tokens at commas. -/
def splitCommas : List SourceToken → List (List SourceToken)
  | [] => [[]]
  | .mark ',' _ :: rest => [] :: splitCommas rest
  | token :: rest =>
    match splitCommas rest with
    | [] => [[token]]
    | part :: parts => (token :: part) :: parts

/-- The keys that the text of an entry holds, the last of which has the value. -/
def keys (tokens : List SourceToken) (value : Option LiteralValue) :
    List (List SourceToken × Option LiteralValue) :=
  let parts := splitCommas tokens
  parts.zipIdx.map fun (part, i) => (part, if i + 1 = parts.length then value else none)

/-- Reads the entries of a list. An error takes the place of all of them. -/
def readList (entries : List EntryText) : Reading (List MetaItem) := do
  let keys ← entries.mapM fun entry => do
    pure (keys (← readable (SourceToken.ofText entry.key)) entry.value)
  let keys := keys.flatten
  let items := keys.zipIdx.mapM fun ((tokens, value), i) =>
    ofTokens tokens value (i + 1 == keys.length)
  pure (match items with
    | .ok items => items.flatten
    | .error e => [.invalid e])

/-- Reads lists of entries. -/
def readLists (lists : List (List EntryText)) : Reading (List (List MetaItem)) :=
  lists.mapM readList

end EntryText

/-! ## Pieces -/

/-- Reads a piece, behind which a comma has to stand. What is no such piece is kept as it is
    written. -/
def readPiece (g : Grammar) (text : String) : Reading (List Token) := do
  let source ← readable (SourceToken.ofText text)
  match g.read (Grammar.depthFor text.length) source with
  | some (tokens, []) => pure tokens
  | some (_, _ :: _) => throw (.expected "`,`")
  | none => pure (SourceToken.written source)

/-! ## Names -/

/-- Reads a name and the tokens behind it. -/
def readName : List SourceToken → Except DeriveError (String × List SourceToken)
  | .word w :: rest => if isKeyword w then .error (.keyword w) else .ok (w, rest)
  | _ => .error (.expected "identifier")

/-- Past the restriction of a visibility, if there is one. -/
def afterRestriction (tokens : List SourceToken) : List SourceToken :=
  match tokens with
  | .group .parenthesis [.word w] :: rest =>
    if ["crate", "self", "super"].contains w then rest else tokens
  | .group .parenthesis (.word "in" :: _) :: rest => rest
  | tokens => tokens

/-- Reads a name in front of which a visibility may stand, if it is `bare` of one so far. -/
def readVisibleName (bare : Bool) (tokens : List SourceToken) :
    Except DeriveError (String × List SourceToken) :=
  match bare, tokens with
  | true, .word "pub" :: rest => readName (afterRestriction rest)
  | _, tokens => readName tokens

namespace FieldText

/-- Reads the name of a field, which may be an underscore. -/
def readIdent (field : FieldText) : Reading String := do
  let tokens ← readable (SourceToken.ofText field.ident)
  match tokens with
  | [.word "_"] => pure "_"
  | tokens =>
    match readVisibleName field.visibility.isEmpty tokens with
    | .error e => throw e
    | .ok (name, []) => pure name
    | .ok (_, _ :: _) => throw (.expected "`:`")

/-- Reads a field; only a field that is `named` needs a name. -/
def read (named : Bool) (field : FieldText) : Reading Field := do
  let ident ← if named then field.readIdent else pure field.ident
  let type ← readPiece Grammar.anyType field.type
  pure ⟨ident, type, ← EntryText.readLists field.attributes⟩

end FieldText

namespace VariantText

/-- Reads the name of a variant. -/
def readIdent (variant : VariantText) : Reading String := do
  match readVisibleName true (← readable (SourceToken.ofText variant.ident)) with
  | .error e => throw e
  | .ok (name, []) => pure name
  | .ok (name, .mark '=' _ :: _) => pure name
  | .ok (_, _) => throw (.expected "`,`")

/-- Reads a variant. -/
def read (variant : VariantText) : Reading Variant := do
  let ident ← variant.readIdent
  let fields ← variant.fields.mapM (FieldText.read (variant.style = .named))
  pure ⟨ident, variant.style, fields, ← EntryText.readLists variant.attributes⟩

end VariantText

/-- Reads a body. -/
def BodyText.read : BodyText → Reading Body
  | .named fields => .named <$> fields.mapM (FieldText.read true)
  | .tuple fields => .tuple <$> fields.mapM (FieldText.read false)
  | .unit => pure .unit
  | .union fields => .union <$> fields.mapM (FieldText.read true)
  | .enum variants => .enum <$> variants.mapM VariantText.read

namespace Declaration

/-- What may stand in front of an item: its visibility, after further attributes. -/
def front : Grammar := .both (.silent .attributes) (.optional .visibility)

/-- Reads the name of an item. -/
def readIdent (d : Declaration) : Reading String := do
  match readName (← readable (SourceToken.ofText d.ident)) with
  | .error e => throw e
  | .ok (name, rest) => readable (if rest.isEmpty then some name else none)

/-- Past the attributes at the front. -/
def afterAttributes : List SourceToken → List SourceToken
  | .mark '#' _ :: .group .bracket _ :: rest => afterAttributes rest
  | tokens => tokens

/-- A generic parameter starts with a lifetime or a name, which may be an underscore, or it is a
    constant with a name. -/
def parameterError? : List SourceToken → Option DeriveError
  | .mark '\'' _ :: _ => none
  | .word "const" :: rest =>
    match readName rest with
    | .ok _ => none
    | .error e => some e
  | .word w :: _ =>
    if w != "_" && isKeyword w then some (.expected "one of: lifetime, identifier, `const`")
    else none
  | _ => some (.expected "one of: lifetime, identifier, `const`")

/-- Reads a generic parameter. -/
def readParameter (text : String) : Reading GenericParam := do
  match parameterError? (afterAttributes (← readable (SourceToken.ofText text))) with
  | some e => throw e
  | none => readable (GenericParam.ofTokens? (← readPiece Grammar.parameter text))

/-- Reads a declaration. -/
def read (d : Declaration) : Reading Item := do
  let visibility ← readable (Grammar.tokensOf? front d.visibility)
  let ident ← d.readIdent
  let generics ← d.generics.mapM readParameter
  let predicates ← d.predicates.mapM fun p => readable (Grammar.tokensOf? Grammar.predicate p)
  let body ← d.body.read
  pure ⟨ident, visibility, generics, predicates, ← EntryText.readLists d.attributes, body⟩

/-- The text of the code derived for a declaration, or the errors; nothing for what consists of
    no tokens. -/
def deriveText (d : Declaration) : Option (Except (List DeriveError) String) :=
  d.read.run.map fun
    | .error e => .error [e]
    | .ok item => item.deriveText

end Declaration

end TypedQuery.Derive
