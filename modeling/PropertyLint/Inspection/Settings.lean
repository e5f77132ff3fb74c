/-! The settings of the inspection. Every setting has a default. -/

namespace PropertyLint

/-- How grave a reported problem is. -/
inductive Category where
  | warning
  | error
  | suggestion
deriving DecidableEq, Repr

/-- The wording of a reported problem. Both mean the same. -/
inductive MessageStyle where
  | noTypeReference
  | shouldSetType
deriving DecidableEq, Repr, Inhabited

namespace MessageStyle

/-- The name of the style in settings. -/
def key : MessageStyle → String
  | .noTypeReference => "noTypeReference"
  | .shouldSetType => "shouldSetType"

/-- The styles in the order in which messages list them. -/
def all : List MessageStyle := [.noTypeReference, .shouldSetType]

/-- The text of the problem. -/
def text : MessageStyle → String
  | .noTypeReference => "There's no type reference for the property"
  | .shouldSetType => "You should set a type for the property"

end MessageStyle

/-- The weight that settings give to the inspection. -/
inductive Severity where
  | warning
  | suggestion
  | error
deriving DecidableEq, Repr, Inhabited

namespace Severity

/-- The name of the severity in settings. -/
def key : Severity → String
  | .warning => "warning"
  | .suggestion => "suggestion"
  | .error => "error"

/-- The severities in the order in which messages list them. -/
def all : List Severity := [.warning, .suggestion, .error]

/-- The category of problems reported with the severity. -/
def category : Severity → Category
  | .warning => .warning
  | .suggestion => .suggestion
  | .error => .error

end Severity

/-- The settings of the inspection of property types. -/
structure InspectionSettings where
  enabled : Bool := true
  message : MessageStyle := .noTypeReference
  severity : Severity := .warning
  /-- Whether supertypes of the known type are offered, too. -/
  includeSupertypes : Bool := true
deriving DecidableEq, Repr, Inhabited

/-- All settings: one section per inspection. -/
structure Settings where
  propertyType : InspectionSettings := {}
deriving DecidableEq, Repr, Inhabited

end PropertyLint
