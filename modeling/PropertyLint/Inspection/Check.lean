import PropertyLint.Inspection.Problem
import PropertyLint.TypeTable.Service

/-! The inspection of property types.

A property declared at top level or in a class should have a written type. The inspection flags
each one that has none, in document order, and offers the type that is known for it, followed by
the direct supertypes of that type.
-/

namespace PropertyLint

namespace Inspection

/-- The name of the inspection. -/
def displayName : String := "The property is without type declaration"

/-- The group in which the inspection is listed. -/
def groupDisplayName : String := "Style issues"

/-- Whether the inspection runs when nobody has chosen. -/
def isEnabledByDefault : Bool := true

/-- What is offered when no type is known. -/
def placeholder : String := "null"

/-- Whether a node is a property without a written type at top level or in a class. -/
def isEligible (forest : Forest) (node : NodeRef) : Bool :=
  match forest.property? node with
  | none => false
  | some data =>
    data.typeSlot.isNone
      && (forest.scope? node = some .topLevel || forest.scope? node = some .member)

/-- The types to offer for a declaration: the known type, then its direct supertypes by class
names only. When no type is known there is one placeholder.
-/
def suggestions (service : TypeService) : Option TypeId → List String
  | none => [placeholder]
  | some id => service.display id :: (service.supertypes id).map service.supertypeText

def offered (settings : InspectionSettings) (service : TypeService) (node : NodeRef)
    : List String :=
  let all := suggestions service (service.declarationType? node)
  if settings.includeSupertypes then all else all.take 1

/-- Flags a node if it is eligible. -/
def visit (settings : InspectionSettings) (service : TypeService) (forest : Forest)
    (fileName : String) (node : NodeRef) : Option Problem :=
  if isEligible forest node then
    some (.ofNode forest fileName node settings.message.text settings.severity.category
      ((offered settings service node).map TypeFix.mk))
  else none

/-- The problems at and below a root in document order; none when the inspection is disabled. -/
def check (settings : InspectionSettings) (service : TypeService) (forest : Forest)
    (root : NodeRef) : List Problem :=
  let fileName := (forest.fileName? root).getD ""
  if settings.enabled then
    (forest.properties root).filterMap fun id =>
      visit settings service forest fileName (some id)
  else []

end Inspection

/-- Runs every inspection over one file. -/
def inspectFile (settings : Settings) (forest : Forest) (root : NodeRef) (service : TypeService)
    : List Problem :=
  Inspection.check settings.propertyType service forest root

end PropertyLint
