import TypedQuery.Derive.Generated
import TypedQuery.Text.SourceLiteral

/-!
# `Item.code` — the tokens of what is generated

The generated code names the library by a path, the default one unless an attribute gives
another. Generic parameters are declared as they are on the item, without their defaults in
implementations; every type parameter gets a bound after the declared predicates.
-/

set_option autoImplicit false

namespace TypedQuery.Derive

open Token

/-- The default path of the library in generated code. -/
def defaultLibrary : List Token := atoms ["::", "shapeql"]

/-- The name of the marker that a table with generic parameters carries. -/
def markerName : String := "__shape"

/-- A text as a literal. -/
def literal (s : String) : Token := atom (String.ofList (Text.generatedQuoted s.toList))

namespace GenericParam

/-- A default after its equals sign. -/
def fallbackTokens : Option (List Token) → List Token
  | none => []
  | some tokens => atom "=" :: tokens

/-- The parameter in an implementation: without its default. -/
def bare : GenericParam → List Token
  | lifetime tokens => tokens
  | type attributes name [] _ => attributes ++ [atom name]
  | type attributes name bounds _ => attributes ++ atom name :: atom ":" :: bounds
  | const attributes name kind _ => attributes ++ atom "const" :: atom name :: atom ":" :: kind

/-- The parameter as it is declared. -/
def declared (param : GenericParam) : List Token :=
  match param with
  | lifetime tokens => tokens
  | type _ _ _ fallback | const _ _ _ fallback => param.bare ++ fallbackTokens fallback

/-- The parameter as an argument: its name. -/
def argument : GenericParam → List Token
  | lifetime tokens => tokens.take 1
  | type _ name _ _ => [atom name]
  | const _ name _ _ => [atom name]

end GenericParam

/-- Parts of a list between angle brackets, commas between them; nothing for no parts. -/
def angledList (parts : List (List Token)) : List Token :=
  if parts.isEmpty then [] else angled (joined "," parts)

/-- Predicates after their keyword; nothing for no predicates. -/
def whereClause (predicates : List (List Token)) : List Token :=
  if predicates.isEmpty then [] else atom "where" :: joined "," predicates

namespace Item

variable (item : Item)

/-- The path of the library. -/
def library : List Token := item.options.options.library.getD defaultLibrary

/-- A path of the library. -/
def inLibrary (parts : List String) : List Token := pathTo item.library parts

/-- The item's type with its parameters as arguments. -/
def self : List Token :=
  atom item.ident :: angledList (item.generics.map (·.argument))

/-- The declared predicates, and the bound on every type parameter. -/
def bounded (bound : List Token) : List Token :=
  whereClause (item.predicates ++
    (item.generics.filterMap (·.typeName?)).map fun name => atom name :: atom ":" :: bound)

/-- The head of an implementation of a trait for a type. -/
def implHead (trait type : List Token) (bound : List Token) : List Token :=
  atom "impl" :: angledList (item.generics.map (·.bare)) ++ trait ++ atom "for" :: type ++
    item.bounded bound

/-- The name of the table: that of the item, with the mark of a raw identifier if it has one. -/
def tableName : String := item.ident ++ "Fields"

/-- The table's type. -/
def tableType : List Token :=
  atom item.tableName :: angledList (item.generics.map (·.argument))

/-- The table carries a marker, so that unused parameters stay legal. -/
def hasMarker : Bool := !item.generics.isEmpty

/-- An implementation of the description: the type of the table, the descriptor and the
    initialised table. -/
def shapeImpl (bound tableType descriptor fields : List Token) : List Token :=
  item.implHead (item.inLibrary ["shape", "Shape"]) item.self bound ++
    [brace (
      atoms ["type", "Fields", "="] ++ tableType ++ [atom ";"] ++
      atoms ["fn", "descriptor"] ++ [paren [], atom "->"] ++
        item.inLibrary ["shape", "TypeDescriptor"] ++ [brace descriptor] ++
      atoms ["fn", "fields"] ++ [paren [], atom "->"] ++ atoms ["Self", "::", "Fields"] ++
        [brace fields])]

/-- The description of a leaf. -/
def scalarCode : List Token :=
  item.shapeImpl [atom "'static"] [paren []]
    (item.inLibrary ["shape", "TypeDescriptor", "scalar"] ++ atoms ["::", "<", "Self", ">"] ++
      [paren []])
    []

/-- The table of a composite. -/
def tableCode (code : CompositeCode) : List Token :=
  let fieldRef := item.inLibrary ["shape", "FieldRef"] ++ angled item.self
  let phantom := pathTo [] ["core", "marker", "PhantomData"]
  [atom "#", bracket (atoms ["doc", "="] ++
      [literal ("Field selectors for [`" ++ item.ident ++ "`].")])] ++
  [atom "#", bracket [atom "allow", paren [atom "dead_code"]]] ++
  [atom "#", bracket [atom "derive", paren (atoms ["Clone", ",", "Copy", ",", "Debug"])]] ++
  item.visibility ++ atoms ["struct", item.tableName] ++
  angledList (item.generics.map (·.declared)) ++ whereClause item.predicates ++
  [brace (
    terminated "," (code.table.map fun ident =>
      item.visibility ++ atom ident :: atom ":" :: fieldRef) ++
    if item.hasMarker then
      [atom "#", bracket [atom "doc", paren [atom "hidden"]]] ++ item.visibility ++
      atoms [markerName, ":"] ++ phantom ++
      angled (atom "fn" :: paren [] :: atom "->" :: item.self) ++ [atom ","]
    else [])]

/-- The constructor of a member. -/
def memberCode (member : MemberCode) : List Token :=
  item.inLibrary ["shape", "Member", "new"] ++ [atom "::"] ++
    angled (atoms ["Self", ","] ++ member.type) ++ [paren [literal member.name]] ++
    match member.rename with
    | none => []
    | some rename => [atom ".", atom "with_rename", paren [literal rename]]

/-- The initialiser of a field of the table. -/
def initialiserCode (initialiser : String × String) : List Token :=
  atoms [initialiser.1, ":"] ++ item.inLibrary ["shape", "FieldRef", "new"] ++
    [paren (item.inLibrary ["key", "FieldId", "of"] ++ atoms ["::", "<", "Self", ">"] ++
      [paren [literal initialiser.2]])]

/-- The table and the description of a composite. -/
def compositeCode (code : CompositeCode) : List Token :=
  item.tableCode code ++
  item.shapeImpl (item.inLibrary ["shape", "Shape"]) item.tableType
    (item.inLibrary ["shape", "TypeDescriptor", "composite"] ++ atoms ["::", "<", "Self", ">"] ++
      [paren (pathTo [] ["std", "vec"] ++
        [atom "!", bracket (joined "," (code.members.map item.memberCode))])])
    [atom item.tableName, brace (
      terminated "," (code.initialisers.map item.initialiserCode) ++
      if item.hasMarker then
        atoms [markerName, ":"] ++ pathTo [] ["core", "marker", "PhantomData"] ++ [atom ","]
      else [])]

/-- The conversion of a source type, the item's own or a reference to it, into a value. -/
def conversionCode (arms : List Arm) (source : List Token) : List Token :=
  item.implHead (pathTo [] ["core", "convert", "From"] ++ angled source)
      (item.inLibrary ["value", "Value"]) [atom "'static"] ++
    [brace (
      atoms ["fn", "from"] ++ [paren (atoms ["value", ":"] ++ source)] ++ atoms ["->", "Self"] ++
      [brace (atoms ["Self", "::", "enum_literal"] ++
        [paren (atoms ["match", "value"] ++
          [brace (terminated "," (arms.map fun arm =>
            atoms [item.ident, "::", arm.variant, "=>"] ++ [literal arm.literal]))])])])]

/-- The code of what is generated. -/
def code : Generated → List Token
  | .composite code => item.compositeCode code
  | .scalar => item.scalarCode
  | .enum arms =>
    item.scalarCode ++
      if arms.isEmpty then []
      else item.conversionCode arms item.self ++
        item.conversionCode arms (atom "&" :: item.self)

/-- The text of the code derived for an item, or the errors. -/
def deriveText : Except (List DeriveError) String :=
  item.derive.map fun generated => render (item.code generated)

end Item

end TypedQuery.Derive
