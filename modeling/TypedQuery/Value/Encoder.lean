import TypedQuery.Shape.TypeKey
import TypedQuery.Value.Literal

/-!
# `Encoder` — how parameter values become literals

A query encodes its parameters with an encoder of its own. The default one writes the literal of
the value. An encoder may also ask for types to be registered while it encodes, whether it
succeeds or not; the query that uses it does the registering.
-/

set_option autoImplicit false

namespace TypedQuery

/-- What came of an encoding: the outcome, and the types to be registered, in order. -/
structure Encoding (α : Type) where
  outcome : Except EncodeError α
  registered : List TypeKey

namespace Encoding

variable {α β : Type}

/-- The encoding of nothing. -/
def done (a : α) : Encoding α := ⟨.ok a, []⟩

/-- One encoding after the other. The second does not take place when the first fails. -/
def andThen (first : Encoding α) (next : α → Encoding β) : Encoding β :=
  match first.outcome with
  | .error e => ⟨.error e, first.registered⟩
  | .ok a => ⟨(next a).outcome, first.registered ++ (next a).registered⟩

end Encoding

/-- An encoder of parameter values. -/
structure Encoder where
  encode : Value → Encoding String

namespace Encoder

/-- The default encoder: the literal of the value, and nothing to register. -/
def default : Encoder := ⟨fun value => ⟨value.literal, []⟩⟩

instance : Inhabited Encoder := ⟨default⟩

/-- Never asks for a registration. -/
def IsPure (e : Encoder) : Prop := ∀ value, (e.encode value).registered = []

theorem isPure_default : default.IsPure := fun _ => rfl

/-- Encodes named values in order, up to the first failure. -/
def encodeAll (e : Encoder) : List (String × Value) → Encoding (List (String × String))
  | [] => .done []
  | (name, value) :: rest =>
    (e.encode value).andThen fun literal =>
      (e.encodeAll rest).andThen fun others => .done ((name, literal) :: others)

end Encoder

end TypedQuery
