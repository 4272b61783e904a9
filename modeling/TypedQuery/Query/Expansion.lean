import TypedQuery.Query.Config
import TypedQuery.Query.Metadata
import TypedQuery.Selection.Basic
import TypedQuery.Shape.Classification

/-!
# `expand` — from a composite type to its selection

The members of a composite type become fields in declaration order; a member whose type is a
composite again is expanded in turn. The types that are being expanded are kept on a stack, and
a type that is met inside itself ends the expansion. Each nested expansion puts one more type of
the family on the stack, which is why every expansion ends.
-/

set_option autoImplicit false

namespace TypedQuery

/-- What an expansion reads and never changes. -/
structure Expansion (S : Schema) where
  registry : Registry
  metadata : Metadata
  arguments : Arguments
  config : QueryConfig

namespace Schema

/-- How many types of the family have a key that is not on the stack. -/
def unvisited (S : Schema) (stack : List TypeKey) : Nat :=
  (List.finRange S.size).countP fun i => !stack.any (· == S.key i)

/-- Putting the key of a type on a stack that does not hold it leaves fewer types unvisited. -/
theorem unvisited_cons_lt (S : Schema) (stack : List TypeKey) (i : S.Ref)
    (h : stack.any (· == S.key i) = false) :
    S.unvisited (S.key i :: stack) < S.unvisited stack := by
  have split : ∀ l : List S.Ref, i ∈ l →
      l.countP (fun j => !(S.key i :: stack).any (· == S.key j)) <
        l.countP (fun j => !stack.any (· == S.key j)) := by
    have le : ∀ l : List S.Ref,
        l.countP (fun j => !(S.key i :: stack).any (· == S.key j)) ≤
          l.countP (fun j => !stack.any (· == S.key j)) := fun l =>
      List.countP_mono_left fun j _ hj => by simp_all
    intro l hl
    induction l with
    | nil => simp at hl
    | cons j rest ih =>
      rcases List.mem_cons.1 hl with rfl | hj
      · have := le rest
        simp [h] at this ⊢
        omega
      · have := ih hj
        have keep := le [j]
        simp only [List.countP_cons, List.countP_nil] at this keep ⊢
        omega
  exact split _ (List.mem_finRange i)

end Schema

namespace Expansion

variable {S : Schema}

/-- The name, alias and arguments of a member's field. -/
def fieldHead (e : Expansion S) (m : Member S.size) : FieldHead where
  name := m.rename.getD (e.config.fieldCase.apply m.name)
  aliasName := e.metadata.aliasOf m.id
  arguments := (e.arguments.lookup m.id).getD []

/-- The fields of a composite type. `stack` holds the keys of the types being expanded, the
    innermost first, and `path` the declared names of the members on the way here. -/
def expand (e : Expansion S) (stack : List TypeKey) (path : List String) (i : S.Ref) :
    Except QueryError SelectionSet :=
  if h : stack.any (· == S.key i) = true then
    .error (.cyclicShape (S.key i) path)
  else do
    let fields ← (S.descriptor i).members.mapM fun m => do
      let selection ← match S.classify e.registry m.type with
        | none => .error (.endlessWrapper (S.key m.type))
        | some (.scalar _) => .ok none
        | some (.composite j) => (e.expand (S.key i :: stack) (path ++ [m.name]) j).map some
      .ok (SelectionField.make (e.fieldHead m) selection)
    .ok ⟨fields⟩
termination_by S.unvisited stack
decreasing_by exact S.unvisited_cons_lt stack i (by simpa using h)

/-- The selection of a type, none if it is a leaf. -/
def select (e : Expansion S) (stack : List TypeKey) (path : List String) (i : S.Ref) :
    Except QueryError (Option SelectionSet) :=
  match S.classify e.registry i with
  | none => .error (.endlessWrapper (S.key i))
  | some (.scalar _) => .ok none
  | some (.composite j) => (e.expand stack path j).map some

/-- A type that is not on the stack is expanded member by member, each member's type selected
    with one more type on the stack. -/
theorem expand_eq_of_fresh (e : Expansion S) (stack : List TypeKey) (path : List String)
    (i : S.Ref) (h : stack.any (· == S.key i) = false) :
    e.expand stack path i = (do
      let fields ← (S.descriptor i).members.mapM fun m => do
        let selection ← e.select (S.key i :: stack) (path ++ [m.name]) m.type
        .ok (SelectionField.make (e.fieldHead m) selection)
      .ok ⟨fields⟩) := by
  rw [expand, dif_neg (by simp [h])]
  congr 2
  funext m
  unfold select
  split <;> rfl

/-- A type that is on the stack ends the expansion. -/
theorem expand_eq_of_visited (e : Expansion S) (stack : List TypeKey) (path : List String)
    (i : S.Ref) (h : stack.any (· == S.key i) = true) :
    e.expand stack path i = .error (.cyclicShape (S.key i) path) := by
  rw [expand, dif_pos h]

/-- The selection of a root type; a leaf has the empty one. -/
def root (e : Expansion S) (i : S.Ref) : Except QueryError SelectionSet :=
  (e.select [] [] i).map fun set => set.getD ⟨[]⟩

end Expansion

end TypedQuery
