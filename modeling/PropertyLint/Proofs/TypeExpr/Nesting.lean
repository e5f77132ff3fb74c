import PropertyLint.TypeExpr.Basic

/-! How deep the argument lists of a type expression nest. -/

namespace PropertyLint.TypeExpr

mutual

/-- The number of argument lists that are open at once while the expression is read. -/
def nesting : TypeExpr → Nat
  | .star => 0
  | .named _ [] _ => 0
  | .named _ (first :: rest) _ => max first.nesting (nestingAll rest) + 1

/-- The greatest nesting in a list of expressions. -/
def nestingAll : List TypeExpr → Nat
  | [] => 0
  | expr :: rest => max expr.nesting (nestingAll rest)

end

/-- An argument list lies one level deeper than the name before it. -/
theorem nesting_named {name : List String} {arguments : List TypeExpr} {nullable : Bool}
    (applied : arguments ≠ [])
    : nesting (.named name arguments nullable) = nestingAll arguments + 1 := by
  cases arguments with
  | nil => exact absurd rfl applied
  | cons first rest => rfl

/-- An argument list adds at most one level. -/
theorem nesting_named_le (name : List String) (arguments : List TypeExpr) (nullable : Bool)
    : nesting (.named name arguments nullable) ≤ nestingAll arguments + 1 := by
  cases arguments with
  | nil => exact Nat.zero_le _
  | cons first rest => exact Nat.le_refl _

end PropertyLint.TypeExpr
