import TypedQuery.Text.FieldName

/-!
# `QueryConfig` — the rendering options of a query
-/

set_option autoImplicit false

namespace TypedQuery

/-- The rendering options of a query. -/
structure QueryConfig where
  /-- How declared names become field names. -/
  fieldCase : FieldCase
  deriving DecidableEq

/-- Camel case, unless another policy is set. -/
def QueryConfig.default : QueryConfig := ⟨.camel⟩

instance : Inhabited QueryConfig := ⟨QueryConfig.default⟩

end TypedQuery
