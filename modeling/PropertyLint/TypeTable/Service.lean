import PropertyLint.TypeTable.Basic
import PropertyLint.TypeExpr.Basic

/-! What an inspection asks about types.

Any source of types can answer these questions; a sealed type table is one.
-/

namespace PropertyLint

/-- A read-only source of types. -/
structure TypeService where
  /-- The type known for a declaration. -/
  declarationType? : NodeRef → Option TypeId
  /-- The direct supertypes of a type, in order. -/
  supertypes : TypeId → List TypeId
  /-- The name of the class that a type applies. -/
  headName : TypeId → String
  arguments : TypeId → List TypeId
  /-- The full spelling of a type. -/
  display : TypeId → String

/-- The spelling of a supertype by class names only: arguments are not expanded, and no
nullability is shown.
-/
def TypeService.supertypeText (service : TypeService) (id : TypeId) : String :=
  spellType (service.headName id) ((service.arguments id).map service.headName) false

end PropertyLint
