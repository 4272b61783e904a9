import TypedQuery.Derive.Declaration
import TypedQuery.Proofs.Text.SourceReading

/-!
# `Piece` — generated code as the items it consists of

What is written for an item is one stream of tokens. Read item by item it is a table of selectors, some
implementations of traits, or errors in their place, and this is how statements about it are put: which
traits are implemented and for which types (`implementations`), and which fields and arms stand in a list.
`tokens_pieces` and `deriveText_eq` say that nothing else is written.

The lists that depend on the body of the item are holes here: the fields of the table, the members and
initialisers of a description, the arms of a conversion.
-/

set_option autoImplicit false

namespace TypedQuery.Derive

open Token

/-- The text that a literal says to who reads the code. -/
def Token.literal? : Token → Option String
  | atom text => (Text.readSource text.toList).map String.ofList
  | group _ _ => none

theorem literal?_literal (s : String) : (literal s).literal? = some s := by
  rw [literal, Token.literal?, String.toList_ofList, Text.readSource_quoted, Option.map_some,
    String.ofList_toList]

theorem terminated_append (separator : String) (parts others : List (List Token)) :
    terminated separator (parts ++ others) =
      terminated separator parts ++ terminated separator others :=
  List.flatMap_append

theorem terminated_singleton (separator : String) (part : List Token) :
    terminated separator [part] = part ++ [atom separator] := by
  simp [terminated]

/-- An item of generated code, or an error in its place. -/
inductive Piece where
  /-- A struct: what stands in front of its fields, and the fields. -/
  | table (head : List Token) (fields : List (List Token))
  | implementation (generics trait type clause body : List Token)
  | compileError (error : DeriveError)

namespace Piece

def tokens : Piece → List Token
  | table head fields => head ++ [brace (terminated "," fields)]
  | implementation generics trait type clause body =>
    atom "impl" :: generics ++ trait ++ atom "for" :: type ++ clause ++ [brace body]
  | compileError e => pathTo [] ["core", "compile_error"] ++ [atom "!", brace [literal e.message]]

def error? : Piece → Option DeriveError
  | compileError e => some e
  | table _ _ | implementation _ _ _ _ _ => none

/-- The trait and the type of an implementation. -/
def implementation? : Piece → Option (List Token × List Token)
  | implementation _ trait type _ _ => some (trait, type)
  | table _ _ | compileError _ => none

/-- The traits that are implemented, each with its type. -/
def implementations (pieces : List Piece) : List (List Token × List Token) :=
  pieces.filterMap implementation?

end Piece

namespace Item

variable (item : Item)

/-- The trait of types that are described. -/
def shapeTrait : List Token := item.inLibrary ["shape", "Shape"]

/-- An implementation for the item's own parameters, with a bound on those that are types. -/
def implementation (trait type bound body : List Token) : Piece :=
  .implementation (angledList (item.generics.map (·.bare))) trait type (item.bounded bound) body

/-- What a description consists of: the type of the table, the descriptor and the table. -/
def descriptionBody (tableType descriptor fields : List Token) : List Token :=
  atoms ["type", "Fields", "="] ++ tableType ++ [atom ";"] ++
  atoms ["fn", "descriptor"] ++ [paren [], atom "->"] ++ item.inLibrary ["shape", "TypeDescriptor"] ++
    [brace descriptor] ++
  atoms ["fn", "fields"] ++ [paren [], atom "->"] ++ atoms ["Self", "::", "Fields"] ++ [brace fields]

/-! ## Leaves -/

/-- The description of a leaf, which has no table. -/
def leaf : Piece :=
  item.implementation item.shapeTrait item.self [atom "'static"]
    (item.descriptionBody [paren []]
      (item.inLibrary ["shape", "TypeDescriptor", "scalar"] ++ atoms ["::", "<", "Self", ">"] ++
        [paren []]) [])

/-- The conversion of a source type into a value, by the given arms. -/
def conversion (arms : List (List Token)) (source : List Token) : Piece :=
  item.implementation (pathTo [] ["core", "convert", "From"] ++ angled source)
    (item.inLibrary ["value", "Value"]) [atom "'static"]
    (atoms ["fn", "from"] ++ [paren (atoms ["value", ":"] ++ source)] ++ atoms ["->", "Self"] ++
      [brace (atoms ["Self", "::", "enum_literal"] ++
        [paren (atoms ["match", "value"] ++ [brace (terminated "," arms)])])])

/-! ## Composites -/

/-- What stands in front of the fields of the table. -/
def tableHead : List Token :=
  [atom "#", bracket (atoms ["doc", "="] ++
    [literal ("Field selectors for [`" ++ item.ident ++ "`].")])] ++
  [atom "#", bracket [atom "allow", paren [atom "dead_code"]]] ++
  [atom "#", bracket [atom "derive", paren (atoms ["Clone", ",", "Copy", ",", "Debug"])]] ++
  item.visibility ++ atoms ["struct", item.tableName] ++
  angledList (item.generics.map (·.declared)) ++ whereClause item.predicates

/-- The marker of a table with parameters, which stands for no field of the item. -/
def marker : List (List Token) :=
  if item.hasMarker then
    [[atom "#", bracket [atom "doc", paren [atom "hidden"]]] ++ item.visibility ++
      atoms [markerName, ":"] ++ pathTo [] ["core", "marker", "PhantomData"] ++
      angled (atom "fn" :: paren [] :: atom "->" :: item.self)]
  else []

def markerValue : List (List Token) :=
  if item.hasMarker then
    [atoms [markerName, ":"] ++ pathTo [] ["core", "marker", "PhantomData"]]
  else []

/-- The table with the given fields. -/
def table (fields : List (List Token)) : Piece := .table item.tableHead (fields ++ item.marker)

/-- The description of a composite: the constructors of its members, and the initialisers of its
    table. -/
def description (members initialisers : List (List Token)) : Piece :=
  item.implementation item.shapeTrait item.self item.shapeTrait
    (item.descriptionBody item.tableType
      (item.inLibrary ["shape", "TypeDescriptor", "composite"] ++ atoms ["::", "<", "Self", ">"] ++
        [paren (pathTo [] ["std", "vec"] ++ [atom "!", bracket (joined "," members)])])
      [atom item.tableName, brace (terminated "," (initialisers ++ item.markerValue))])

/-! ## The code of an item -/

/-- The declaration of a field in the table. -/
def selectorCode (ident : String) : List Token :=
  item.visibility ++ atom ident :: atom ":" :: (item.inLibrary ["shape", "FieldRef"] ++ angled item.self)

def armCode (arm : Arm) : List Token :=
  atoms [item.ident, "::", arm.variant, "=>"] ++ [literal arm.literal]

/-- The items that are generated. -/
def pieces : Generated → List Piece
  | .composite code =>
    [item.table (code.table.map item.selectorCode),
      item.description (code.members.map item.memberCode) (code.initialisers.map item.initialiserCode)]
  | .scalar => [item.leaf]
  | .enum arms =>
    item.leaf ::
      if arms.isEmpty then []
      else [item.conversion (arms.map item.armCode) item.self,
        item.conversion (arms.map item.armCode) (atom "&" :: item.self)]

theorem tokens_table (code : CompositeCode) :
    (item.table (code.table.map item.selectorCode)).tokens = item.tableCode code := by
  simp only [table, Piece.tokens, tableCode, tableHead, terminated_append, marker]
  split_ifs
  · rw [terminated_singleton]
    rfl
  · rfl

theorem tokens_description (code : CompositeCode) :
    (item.description (code.members.map item.memberCode)
        (code.initialisers.map item.initialiserCode)).tokens =
      item.shapeImpl item.shapeTrait item.tableType
        (item.inLibrary ["shape", "TypeDescriptor", "composite"] ++ atoms ["::", "<", "Self", ">"] ++
          [paren (pathTo [] ["std", "vec"] ++
            [atom "!", bracket (joined "," (code.members.map item.memberCode))])])
        [atom item.tableName, brace (
          terminated "," (code.initialisers.map item.initialiserCode) ++
          if item.hasMarker then
            atoms [markerName, ":"] ++ pathTo [] ["core", "marker", "PhantomData"] ++ [atom ","]
          else [])] := by
  simp only [description, implementation, Piece.tokens, shapeImpl, implHead, descriptionBody,
    terminated_append, markerValue]
  split_ifs
  · rw [terminated_singleton]
    rfl
  · rfl

theorem tokens_leaf : item.leaf.tokens = item.scalarCode := rfl

theorem tokens_conversion (arms : List Arm) (source : List Token) :
    (item.conversion (arms.map item.armCode) source).tokens = item.conversionCode arms source := rfl

/-- **The code is that of the pieces**, one after the other. -/
theorem tokens_pieces (generated : Generated) :
    (item.pieces generated).flatMap Piece.tokens = item.code generated := by
  cases generated with
  | composite code =>
    simp only [pieces, List.flatMap_cons, List.flatMap_nil, List.append_nil, tokens_table,
      tokens_description]
    rfl
  | scalar =>
    simp only [pieces, List.flatMap_cons, List.flatMap_nil, List.append_nil, tokens_leaf]
    rfl
  | enum arms =>
    simp only [pieces, List.flatMap_cons, tokens_leaf, code]
    split_ifs
    · rfl
    · simp only [List.flatMap_cons, List.flatMap_nil, List.append_nil, tokens_conversion]

/-- What is written for an item: generated code, or its errors. -/
def output : List Piece :=
  match item.derive with
  | .ok generated => item.pieces generated
  | .error errors => errors.map .compileError

variable {item}

theorem output_of_ok {generated : Generated} (derived : item.derive = .ok generated) :
    item.output = item.pieces generated ∧
      item.deriveText = .ok (render (item.output.flatMap Piece.tokens)) := by
  have same : item.output = item.pieces generated := by
    rw [output, derived]
  refine ⟨same, ?_⟩
  rw [same, tokens_pieces, deriveText, derived]
  rfl

theorem output_of_error {errors : List DeriveError} (failed : item.derive = .error errors) :
    item.output = errors.map .compileError ∧ item.deriveText = .error errors := by
  constructor
  · rw [output, failed]
  · rw [deriveText, failed]
    rfl

end Item

/-- What is written for a declaration. What is no item gives the one error of its reading. -/
def Declaration.output (d : Declaration) : Option (List Piece) :=
  d.read.run.map fun
    | .error e => [.compileError e]
    | .ok item => item.output

end TypedQuery.Derive
