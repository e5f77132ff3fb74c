import PropertyLint.Text.LineMap

/-! Fixes as editors take them: insertions at line and column. -/

namespace PropertyLint

/-- A line and a byte column, both counted from one. -/
structure EditPosition where
  line : Nat
  column : Nat
deriving DecidableEq, Repr

/-- The position with both counts one higher. -/
def EditPosition.ofPosition (position : Position) : EditPosition :=
  ⟨position.line + 1, position.column + 1⟩

def EditPosition.ofOffset (map : LineMap) (offset : Nat) : EditPosition :=
  .ofPosition (map.position offset)

/-- The text between two positions gives way to a new one. -/
structure TextEdit where
  start : EditPosition
  stop : EditPosition
  newText : String
deriving DecidableEq, Repr

structure FileEdit where
  fileName : String
  edits : List TextEdit
deriving DecidableEq, Repr

/-- A fix with its names and edits. -/
structure CodeFix where
  fixName : String
  description : String
  changes : List FileEdit
  familyName : String
deriving DecidableEq, Repr

end PropertyLint
