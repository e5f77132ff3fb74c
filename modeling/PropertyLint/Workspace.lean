import PropertyLint.Inspection.Check
import PropertyLint.Journal.Log
import PropertyLint.TypeTable.Builtin

/-! A workspace: forests under edit, a type table, and the problems found so far.

One of the forests is current; edits and inspections work on it. Inspections ask the table as it
was when it was last sealed. The problems of all inspections are kept in the order of their report,
and every operation that the journal covers tells its events.
-/

namespace PropertyLint

/-- The state of a workspace. -/
structure Workspace where
  forests : Array Forest
  current : Nat
  table : TypeTable
  sealed : SealedTable
  problems : Array Problem
  events : List LogEvent

namespace Workspace

/-- A workspace with one empty forest and an empty type table, which is sealed. -/
def initial : Workspace :=
  let sealed := TypeTable.empty.seal
  { forests := #[.empty], current := 0, table := sealed.table, sealed, problems := #[]
    events := [.ofSealed sealed] }

/-- The current forest. -/
def forest (workspace : Workspace) : Forest :=
  workspace.forests.getD workspace.current .empty

/-- Puts another forest in place of the current one. -/
def setForest (workspace : Workspace) (forest : Forest) : Workspace :=
  { workspace with forests := workspace.forests.setIfInBounds workspace.current forest }

def tell (workspace : Workspace) (events : List LogEvent) : Workspace :=
  { workspace with events := workspace.events ++ events }

-----------------------------------------------------------------------------------------
-- Forests
-----------------------------------------------------------------------------------------

/-- Adds a forest and makes it the current one. -/
def openForest (workspace : Workspace) (forest : Forest) : Nat × Workspace :=
  let index := workspace.forests.size
  (index, { workspace with forests := workspace.forests.push forest, current := index })

/-- Makes another forest the current one. -/
def useForest (workspace : Workspace) (index : Nat) : Workspace :=
  { workspace with current := index }

/-- Changes the current forest by an operation that has a result. -/
def edit (workspace : Workspace) (operation : Forest → α × Forest) : α × Workspace :=
  let (result, forest) := operation workspace.forest
  (result, workspace.setForest forest)

/-- Adds a property with a written type to the current forest. -/
def addTypedProperty (workspace : Workspace) (parent : NodeRef) (name typeText : String)
    (span nameSpan : Span) : Except TypeParseError (NodeId × Workspace) := do
  let (added, forest) ← workspace.forest.addTypedProperty parent name typeText span nameSpan
  let event := LogEvent.attached (some added.property) (some added.typeRef)
  return (added.property, (workspace.setForest forest).tell [event])

/-- Attaches a type reference in the current forest. -/
def attachType (workspace : Workspace) (property typeRef : NodeRef)
    : Forest.Attachment × Workspace :=
  let (attachment, workspace) := workspace.edit (·.attachType property typeRef)
  (attachment, workspace.tell (LogEvent.ofAttachment property typeRef attachment))

-----------------------------------------------------------------------------------------
-- Types
-----------------------------------------------------------------------------------------

/-- Changes the type table by an operation that has a result. -/
def editTable (workspace : Workspace) (operation : TypeTable → α × TypeTable) : α × Workspace :=
  let (result, table) := operation workspace.table
  (result, { workspace with table })

/-- Seals the type table for the inspections to come. -/
def sealTable (workspace : Workspace) : Workspace :=
  let sealed := workspace.table.seal
  { workspace with table := sealed.table, sealed }.tell [.ofSealed sealed]

-----------------------------------------------------------------------------------------
-- Problems
-----------------------------------------------------------------------------------------

/-- Adds problems behind those found before. -/
def report (workspace : Workspace) (problems : List Problem) : Workspace :=
  { workspace with problems := workspace.problems ++ problems }

/-- Inspects the current forest below a root. -/
def inspect (workspace : Workspace) (settings : Settings) (root : NodeRef)
    : List Problem × Workspace :=
  let service := workspace.sealed.service
  let problems := inspectFile settings workspace.forest root service
  let events := LogEvent.ofCheck settings.propertyType service workspace.forest root
  (problems, (workspace.report problems).tell events)

/-- Visits single nodes of the current forest, whether or not the inspection is enabled. -/
def visit (workspace : Workspace) (settings : Settings) (fileName : String)
    (nodes : List NodeRef) : List Problem × Workspace :=
  let visits := nodes.map fun node =>
    (node, Inspection.visit settings.propertyType workspace.sealed.service workspace.forest
      fileName node)
  let problems := visits.filterMap Prod.snd
  let events := visits.map fun (node, problem) => LogEvent.ofVisit node none problem
  (problems, (workspace.report problems).tell events)

/-- Applies the fix at an index of a problem to the current forest. -/
def applyFix (workspace : Workspace) (problem : Problem) (index : Nat)
    : Except FixError FixOutcome × Workspace :=
  let (result, workspace) := workspace.edit (problem.applyFix index)
  (result, workspace.tell (LogEvent.ofApplyFix problem index result))

/-- Applies a fix of one's own to the declaration that a problem flags. -/
def applyText (workspace : Workspace) (problem : Problem) (typeText : String)
    : Except FixError FixOutcome × Workspace :=
  let fix : TypeFix := ⟨typeText⟩
  let (result, workspace) := workspace.edit (fix.apply problem)
  (result, workspace.tell (LogEvent.ofFix fix problem result))

end Workspace

end PropertyLint
