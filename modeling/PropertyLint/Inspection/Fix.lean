import PropertyLint.Forest.Edit
import PropertyLint.Inspection.Problem

/-! Applying fixes to the forest.

The declaration is looked up again and the type text is read in full before anything changes, so a
fix that fails leaves the forest as it was.
-/

namespace PropertyLint

/-- How a fix ended. -/
inductive FixOutcome where
  | applied (typeRef : NodeId)
  /-- The property already has exactly this type. -/
  | alreadyPresent
deriving DecidableEq, Repr

/-- Why a fix could not be applied. -/
inductive FixError where
  /-- The flagged declaration no longer exists. -/
  | staleDeclaration (name : String)
  | invalidType (text : String) (source : TypeParseError)
  | noSuchFix (index available : Nat)
deriving DecidableEq, Repr

/-- The error in words. -/
def FixError.message : FixError → String
  | .staleDeclaration name => s!"declaration '{name}' no longer exists"
  | .invalidType text source => s!"'{text}' is not a valid type: {source.message}"
  | .noSuchFix index available => s!"no fix at index {index} ({available} available)"

/-- Inserts the fix's type into the declaration that a problem flags. -/
def TypeFix.apply (fix : TypeFix) (problem : Problem) (forest : Forest)
    : Except FixError FixOutcome × Forest :=
  match problem.declaration? forest with
  | none => (.error (.staleDeclaration problem.declarationName), forest)
  | some property =>
    match TypeExpr.parse fix.typeText with
    | .error source => (.error (.invalidType fix.typeText source), forest)
    | .ok expr =>
      if forest.propertyTypeText? (some property) = some expr.spelling then
        (.ok .alreadyPresent, forest)
      else
        let (typeRef, grown) := forest.addType expr
        let (attachment, changed) := grown.attachType (some property) (some typeRef)
        if attachment.isDone then (.ok (.applied typeRef), changed)
        else (.error (.staleDeclaration problem.declarationName), changed.remove (some typeRef))

/-- Applies the fix at an index of the problem's list. -/
def Problem.applyFix (problem : Problem) (index : Nat) (forest : Forest)
    : Except FixError FixOutcome × Forest :=
  match problem.fixes[index]? with
  | none => (.error (.noSuchFix index problem.fixes.length), forest)
  | some fix => fix.apply problem forest

end PropertyLint
