import PropertyLint.Inspection.Check
import PropertyLint.Inspection.Fix
import PropertyLint.Settings.Load
import PropertyLint.Text.Quoted
import PropertyLint.TypeTable.Sealed

/-! Journal events.

An event tells what an operation has done. It is worked out from the operation's result, so the
operations themselves know nothing of the journal.
-/

namespace PropertyLint

/-- How much detail an event is, the most important first. -/
inductive LogLevel where
  | error
  | warn
  | info
  | debug
  | trace
deriving DecidableEq, Repr

/-- The rank of a level: more detail ranks higher. -/
def LogLevel.rank : LogLevel → Nat
  | .error => 1
  | .warn => 2
  | .info => 3
  | .debug => 4
  | .trace => 5

/-- A value in an event. -/
inductive LogValue where
  | text (value : String)
  | number (value : Nat)
deriving DecidableEq, Repr

/-- An event: its level, the part of the program it comes from, and what it tells.
`file` is the file that was under inspection, if one was.
-/
structure LogEvent where
  level : LogLevel
  target : String
  message : String
  fields : List (String × LogValue) := []
  file : Option String := none
deriving DecidableEq, Repr

/-- The number that events give for a node reference; no node is the greatest number of 32 bits. -/
def NodeRef.logValue (ref : NodeRef) : LogValue :=
  .number (ref.getD 0xFFFFFFFF)

namespace LogEvent

/-- The part of the program that inspects. -/
def inspectionTarget : String := "typereveal_inspections::inspection"

/-- The name of the activity during which a file is under inspection. -/
def inspectionActivity : String := "property_type_inspection"

/-- A type reference has taken a property's slot. -/
def attached (property typeRef : NodeRef) : LogEvent where
  level := .trace
  target := "typereveal_syntax::node_arena"
  message := "type reference attached"
  fields := [("property", property.logValue), ("type_ref", typeRef.logValue)]

/-- What is told of an attempt to attach a type reference: only a change. -/
def ofAttachment (property typeRef : NodeRef) : Forest.Attachment → List LogEvent
  | .attached => [attached property typeRef]
  | .refused | .unchanged => []

def ofSealed (sealed : SealedTable) : LogEvent where
  level := .trace
  target := "typereveal_types::table"
  message := "type table sealed"
  fields := [("types", .number sealed.table.size)]

def ofVisit (node : NodeRef) (file : Option String) : Option Problem → LogEvent
  | none =>
    { level := .trace, target := inspectionTarget, message := "skipping property", file
      fields := [("node", node.logValue)] }
  | some problem =>
    { level := .trace, target := inspectionTarget, message := "missing property type", file
      fields :=
        [ ("node", node.logValue),
          ("name", .text problem.declarationName),
          ("suggestions", .text (Text.quotedList (problem.fixes.map TypeFix.typeText))) ] }

/-- A disabled inspection has done nothing. -/
def disabled (file : String) : LogEvent where
  level := .debug
  target := inspectionTarget
  message := "inspection disabled"
  file := some file

/-- An inspection has come to its end. -/
def finished (file : String) (problems : Nat) : LogEvent where
  level := .debug
  target := inspectionTarget
  message := "inspection finished"
  fields := [("problems", .number problems)]
  file := some file

/-- What is told of the inspection of a file: every visit, then the end. -/
def ofCheck (settings : InspectionSettings) (service : TypeService) (forest : Forest)
    (root : NodeRef) : List LogEvent :=
  let file := (forest.fileName? root).getD ""
  if settings.enabled then
    let visits := (forest.properties root).map fun id =>
      ofVisit (some id) (some file) (Inspection.visit settings service forest file (some id))
    visits ++ [finished file (Inspection.check settings service forest root).length]
  else [disabled file]

/-- What is told of a fix: the change that it made, or why it made none. -/
def ofFix (fix : TypeFix) (problem : Problem) : Except FixError FixOutcome → List LogEvent
  | .ok (.applied typeRef) => [attached problem.node (some typeRef)]
  | .ok .alreadyPresent => []
  | .error error =>
    [{ level := .debug
       target := "typereveal_inspections::code_actions::add_property_type"
       message := "quick-fix skipped"
       fields := [("fix", .text fix.description), ("error", .text error.message)] }]

/-- What is told of applying the fix at an index: nothing when there is no such fix. -/
def ofApplyFix (problem : Problem) (index : Nat) (result : Except FixError FixOutcome)
    : List LogEvent :=
  match problem.fixes[index]? with
  | none => []
  | some fix => ofFix fix problem result

/-- What is told of loading settings from a file: only that they have been loaded. -/
def ofLoad (path : Path) : Except SettingsError Settings → List LogEvent
  | .ok _ =>
    [{ level := .debug, target := "typereveal::config", message := "loaded config"
       fields := [("path", .text path.text)] }]
  | .error _ => []

/-- What is told of loading the nearest settings: nothing when there is no settings file. -/
def ofLoadNearest (tree : FileTree) (start : Path) (result : Except SettingsError Settings)
    : List LogEvent :=
  match tree.settingsFile? start with
  | some path => ofLoad path result
  | none => []

/-- A second attempt to start the journal. -/
def alreadyInstalled : LogEvent where
  level := .debug
  target := "typereveal::tracing_config"
  message := "tracing subscriber already installed"

end LogEvent

end PropertyLint
