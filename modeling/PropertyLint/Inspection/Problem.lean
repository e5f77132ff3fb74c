import PropertyLint.Forest.Query
import PropertyLint.Inspection.Settings
import PropertyLint.Inspection.TextEdit

/-! Reported problems.

A problem names the flagged declaration by index and keeps the name that the declaration had, so
that the declaration can be found again after the forest has changed. The types that could be
inserted come along in the order of preference.
-/

namespace PropertyLint

/-- The name under which editors group the fixes. -/
def fixFamilyName : String := "Add property type"

/-- A fix that inserts one type after the name of the flagged property. -/
structure TypeFix where
  typeText : String
deriving DecidableEq, Repr

namespace TypeFix

/-- What the fix does, in words. -/
def description (fix : TypeFix) : String :=
  "Insert the type: " ++ fix.typeText

/-- The fix as an insertion behind the flagged name. -/
def codeFix (fix : TypeFix) (fileName : String) (nameSpan : Span) (map : LineMap) : CodeFix :=
  let place := EditPosition.ofOffset map nameSpan.stop
  { fixName := "addPropertyType"
    description := fix.description
    changes := [⟨fileName, [⟨place, place, ": " ++ fix.typeText⟩]⟩]
    familyName := fixFamilyName }

end TypeFix

/-- A flagged declaration with what is wrong and how to mend it. -/
structure Problem where
  fileName : String
  node : NodeRef
  /-- The name of the declaration when it was flagged. -/
  declarationName : String
  /-- The bytes to highlight. -/
  span : Span
  message : String
  category : Category
  fixes : List TypeFix
deriving DecidableEq, Repr

/-- A problem as an editor lists it, without fixes. -/
structure Diagnostic where
  file : String
  span : Span
  messageText : String
  category : Category
deriving DecidableEq, Repr

namespace Diagnostic

/-- The offset of the first highlighted byte. -/
def start (diagnostic : Diagnostic) : Nat :=
  diagnostic.span.start

/-- The number of highlighted bytes. -/
def length (diagnostic : Diagnostic) : Nat :=
  diagnostic.span.length

end Diagnostic

namespace Problem

/-- A problem on a node: a property is highlighted at its name, another node as a whole. -/
def ofNode (forest : Forest) (fileName : String) (node : NodeRef) (message : String)
    (category : Category) (fixes : List TypeFix) : Problem :=
  let nameSpan? := (forest.property? node).map PropertyData.nameSpan
  let nodeSpan? := (forest.node? node).map Node.span
  { fileName, node, message, category, fixes
    declarationName := (forest.declarationName? node).getD ""
    span := (nameSpan?.or nodeSpan?).getD {} }

/-- The flagged declaration, if it is still a property with a scope and with the same name. -/
def declaration? (problem : Problem) (forest : Forest) : NodeRef :=
  if (forest.property? problem.node).isSome ∧ (forest.scope? problem.node).isSome
      ∧ forest.declarationName? problem.node = some problem.declarationName
  then problem.node
  else none

/-- The problem without its fixes. -/
def diagnostic (problem : Problem) : Diagnostic :=
  ⟨problem.fileName, problem.span, problem.message, problem.category⟩

/-- Every fix as an editor takes it. -/
def codeFixes (problem : Problem) (map : LineMap) : List CodeFix :=
  problem.fixes.map fun fix => fix.codeFix problem.fileName problem.span map

end Problem

end PropertyLint
