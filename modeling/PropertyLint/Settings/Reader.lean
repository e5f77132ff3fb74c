import PropertyLint.Inspection.Settings
import PropertyLint.Json.Shape

/-! Settings as JSON.

The settings are an object with a section per inspection, and a section is an object with a member
per setting; either may also be given as an array of its members in order. What is left out has its
default. Sections must be known; a section may have other members, which are skipped.
-/

namespace PropertyLint

open Json

/-- The settings of a section as far as they have been read. -/
structure SectionMembers where
  enabled : Option Bool := none
  message : Option MessageStyle := none
  severity : Option Severity := none
  includeSupertypes : Option Bool := none
deriving Repr, Inhabited

namespace SectionMembers

/-- The section, with defaults for what has not been read. -/
def toSettings (members : SectionMembers) : InspectionSettings :=
  let default : InspectionSettings := {}
  { enabled := members.enabled.getD default.enabled
    message := members.message.getD default.message
    severity := members.severity.getD default.severity
    includeSupertypes := members.includeSupertypes.getD default.includeSupertypes }

def readMessage : List Char → Except Fault (MessageStyle × List Char) :=
  readChoice (MessageStyle.all.map fun style => (style.key, style))

def readSeverity : List Char → Except Fault (Severity × List Char) :=
  readChoice (Severity.all.map fun severity => (severity.key, severity))

/-- Reads the value of a member that must not have been read before; the text starts behind the
key.
-/
def readOnce (key : String) (known : Option α) (read : List Char → Except Fault (α × List Char))
    (text : List Char) : Except Fault (α × List Char) :=
  if known.isSome then .error (.mismatch (.duplicateField key))
  else (expectColon text).bind read

/-- Reads the value of the member with the given key; the text starts behind the key. The value of
a member that is not a setting is skipped.
-/
def readMember (members : SectionMembers) (key : String) (text : List Char)
    : Except Fault (SectionMembers × List Char) :=
  match key with
  | "enabled" => do
    let (value, rest) ← readOnce key members.enabled readBool text
    return ({ members with enabled := some value }, rest)
  | "message" => do
    let (value, rest) ← readOnce key members.message readMessage text
    return ({ members with message := some value }, rest)
  | "severity" => do
    let (value, rest) ← readOnce key members.severity readSeverity text
    return ({ members with severity := some value }, rest)
  | "includeSupertypes" => do
    let (value, rest) ← readOnce key members.includeSupertypes readBool text
    return ({ members with includeSupertypes := some value }, rest)
  | _ => do
    let rest ← (expectColon text).bind skipValue
    return (members, rest)

/-- Reads the members of a section one after the other, up to the closing bracket. Each member
takes text, so the length of the text is budget enough.
-/
def readWithin (members : SectionMembers) (first : Bool)
    : Nat → List Char → Except Fault (SectionMembers × List Char)
  | 0, _ => .error .truncated
  | budget + 1, text => do
    match ← nextMember first text with
    | .close rest => .ok (members, rest)
    | .key start =>
      let (key, rest) ← readString start
      let (members, rest) ← members.readMember key rest
      members.readWithin false budget rest

end SectionMembers

def readSectionArray (text : List Char) : Except Fault (InspectionSettings × List Char) := do
  let default : InspectionSettings := {}
  let (enabled, state) ← readElement readBool default.enabled (true, text)
  let (message, state) ← readElement SectionMembers.readMessage default.message state
  let (severity, state) ← readElement SectionMembers.readSeverity default.severity state
  let (includeSupertypes, state) ← readElement readBool default.includeSupertypes state
  let rest ← closeArray state.2
  return ({ enabled, message, severity, includeSupertypes }, rest)

def readSection (text : List Char) : Except Fault (InspectionSettings × List Char) :=
  match skipBlank text with
  | [] => .error .truncated
  | '[' :: rest => readSectionArray rest
  | '\x7b' :: rest => do
    let (members, rest) ← ({} : SectionMembers).readWithin true (rest.length + 1) rest
    return (members.toSettings, rest)
  | start => .error (unexpected "struct InspectionConfig" start)

def sectionKey : String := "propertyType"

/-- Reads the key of a section, which must be the inspection's. -/
def readSectionKey (text : List Char) : Except Fault (List Char) := do
  let (key, rest) ← readString text
  if key = sectionKey then .ok rest
  else .error (.mismatch (.unknownField key [sectionKey]))

/-- Reads the sections of an object. There is one section to be known, so a second member is
either unknown or a repetition.
-/
def readSections (text : List Char) : Except Fault (Settings × List Char) := do
  match ← nextMember true text with
  | .close rest => .ok ({}, rest)
  | .key start =>
    let rest ← readSectionKey start
    let rest ← expectColon rest
    let (propertyType, rest) ← readSection rest
    match ← nextMember false rest with
    | .close rest => .ok ({ propertyType }, rest)
    | .key start =>
      let _ ← readSectionKey start
      .error (.mismatch (.duplicateField sectionKey))

def readSettings (text : List Char) : Except Fault (Settings × List Char) :=
  match skipBlank text with
  | [] => .error .truncated
  | '[' :: rest => do
    let (propertyType, state) ← readElement readSection {} (true, rest)
    let rest ← closeArray state.2
    return ({ propertyType }, rest)
  | '\x7b' :: rest => readSections rest
  | start => .error (unexpected "struct TypeRevealConfig" start)

/-- Reads a text that holds settings and nothing else. -/
def Settings.parse (source : String) : Except Fault Settings := do
  let (settings, rest) ← readSettings source.toList
  if (skipBlank rest).isEmpty then .ok settings else .error .malformed

end PropertyLint
