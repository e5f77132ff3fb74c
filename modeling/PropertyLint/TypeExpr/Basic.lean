import PropertyLint.Text.Joined

/-! Type expressions and their canonical spelling.

A type expression is a qualified name with type arguments and a mark for nullability, or the
star that stands for any argument. Its spelling joins name segments by dots and arguments by a
comma and a blank.
-/

namespace PropertyLint

open Text (joined)

/-- A type as it is written after a property's name. -/
inductive TypeExpr where
  /-- A qualified name, its type arguments, and whether a question mark follows. -/
  | named (name : List String) (arguments : List TypeExpr) (nullable : Bool)
  /-- The star, which only makes sense as a type argument. -/
  | star
deriving Repr, Inhabited

/-- Spells a type from its name and the spellings of its arguments: the arguments stand in angle
brackets, which are left out when there are none, and a nullable type ends in a question mark.
-/
def spellType (name : String) (arguments : List String) (nullable : Bool) : String :=
  let applied := if arguments.isEmpty then "" else "<" ++ joined ", " arguments ++ ">"
  name ++ applied ++ if nullable then "?" else ""

namespace TypeExpr

mutual

def spelling : TypeExpr → String
  | .star => "*"
  | .named name arguments nullable =>
    spellType (joined "." name) (spellings arguments) nullable

def spellings : List TypeExpr → List String
  | [] => []
  | expr :: rest => expr.spelling :: spellings rest

end

end TypeExpr

end PropertyLint
