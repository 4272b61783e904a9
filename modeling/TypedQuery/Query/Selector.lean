import TypedQuery.Query.Error
import TypedQuery.Shape.Schema
import TypedQuery.Text.Blank
import TypedQuery.Text.Identifier

/-!
# `Selector` — the selection of a member by its name

A selector is one identifier that names a direct member of the root. White space around it and
one mark of a raw identifier in front of it are allowed, and nothing else.
-/

set_option autoImplicit false

namespace TypedQuery.Selector

/-- One identifier: a letter or an underscore, then letters, numbers and underscores; not the
    underscore alone. -/
def isIdentifier (cs : List Char) : Bool :=
  match cs with
  | [] => false
  | c :: rest =>
    (c == '_' || Text.isAlphabetic c) &&
      rest.all (fun c => c == '_' || Text.isAlphanumeric c) && cs != ['_']

/-- The identifier of a selector: the text without white space around it and without the mark
    of a raw identifier. -/
def ident (selector : List Char) : List Char := Text.unmarked (Text.trim selector)

/-- Why a trimmed text is not one identifier. -/
def fault (trimmed : List Char) : SelectorFault :=
  if trimmed.isEmpty then .empty
  else if trimmed.contains '(' then .call
  else if trimmed.contains '.' then .chained
  else .notIdentifier

/-- The member of a type that a selector names. -/
def resolve {n : Nat} (root : Descriptor n) (selector : String) :
    Except QueryError (Member n) :=
  let name := ident selector.toList
  if isIdentifier name then
    match root.member? (String.ofList name) with
    | some member => .ok member
    | none =>
      .error (.unsupportedSelector selector (.unknownMember root.key (String.ofList name)))
  else .error (.unsupportedSelector selector (fault (Text.trim selector.toList)))

/-- A selector finds members of its type only. -/
theorem mem_of_resolve {n : Nat} {root : Descriptor n} {selector : String} {m : Member n}
    (h : resolve root selector = .ok m) : m ∈ root.members := by
  unfold resolve at h
  dsimp only at h
  split at h
  · split at h
    · rename_i found
      obtain rfl := Except.ok.inj h
      exact List.mem_of_find?_eq_some found
    · exact absurd h (by simp)
  · exact absurd h (by simp)

end TypedQuery.Selector
