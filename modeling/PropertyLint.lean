import PropertyLint.Forest.Basic
import PropertyLint.Forest.Edit
import PropertyLint.Forest.Query
import PropertyLint.Inspection.Check
import PropertyLint.Inspection.Fix
import PropertyLint.Inspection.Problem
import PropertyLint.Inspection.Settings
import PropertyLint.Inspection.TextEdit
import PropertyLint.Journal.Directive
import PropertyLint.Journal.Event
import PropertyLint.Journal.FieldQuery
import PropertyLint.Journal.Filter
import PropertyLint.Journal.Log
import PropertyLint.Json.Fault
import PropertyLint.Json.Number
import PropertyLint.Json.Shape
import PropertyLint.Json.Skip
import PropertyLint.Json.Text
import PropertyLint.Number.Binary64
import PropertyLint.Number.Shortest
import PropertyLint.Pattern.Automaton
import PropertyLint.Pattern.Basic
import PropertyLint.Pattern.CharSet
import PropertyLint.Pattern.Mode
import PropertyLint.Pattern.Reader
import PropertyLint.Pattern.SetReader
import PropertyLint.Proofs.Forest.Appending
import PropertyLint.Proofs.Forest.Ascent
import PropertyLint.Proofs.Forest.Attachment
import PropertyLint.Proofs.Forest.Cycles
import PropertyLint.Proofs.Forest.DocumentOrder
import PropertyLint.Proofs.Forest.EditHistory
import PropertyLint.Proofs.Forest.Erasure
import PropertyLint.Proofs.Forest.FreshAttachment
import PropertyLint.Proofs.Forest.Links
import PropertyLint.Proofs.Forest.NodeView
import PropertyLint.Proofs.Forest.Outline
import PropertyLint.Proofs.Forest.ReadBack
import PropertyLint.Proofs.Forest.Remnants
import PropertyLint.Proofs.Forest.Removal
import PropertyLint.Proofs.Forest.Replacement
import PropertyLint.Proofs.Forest.Survival
import PropertyLint.Proofs.Forest.TypeArguments
import PropertyLint.Proofs.Forest.TypeGrowth
import PropertyLint.Proofs.Forest.TypeParts
import PropertyLint.Proofs.Forest.TypeTrees
import PropertyLint.Proofs.Forest.Walks
import PropertyLint.Proofs.Forest.WrittenTypes
import PropertyLint.Proofs.Inspection.FailedFixes
import PropertyLint.Proofs.Inspection.Idempotence
import PropertyLint.Proofs.Inspection.Listing
import PropertyLint.Proofs.Inspection.PrintedTypes
import PropertyLint.Proofs.Inspection.Reinspection
import PropertyLint.Proofs.Inspection.Report
import PropertyLint.Proofs.Inspection.Staleness
import PropertyLint.Proofs.Inspection.SuggestedTexts
import PropertyLint.Proofs.Inspection.TextEdits
import PropertyLint.Proofs.Json.Strings
import PropertyLint.Proofs.Json.Values
import PropertyLint.Proofs.Settings.KnownMembers
import PropertyLint.Proofs.Text.FirstAppearances
import PropertyLint.Proofs.Text.InternerRelation
import PropertyLint.Proofs.Text.LineStarts
import PropertyLint.Proofs.Text.Numbering
import PropertyLint.Proofs.TypeExpr.Acceptance
import PropertyLint.Proofs.TypeExpr.Nesting
import PropertyLint.Proofs.TypeExpr.Partition
import PropertyLint.Proofs.TypeExpr.RoundTrip
import PropertyLint.Proofs.TypeExpr.Scanning
import PropertyLint.Proofs.TypeExpr.TokenPlaces
import PropertyLint.Proofs.TypeExpr.ViablePrefixes
import PropertyLint.Proofs.TypeTable.CallHistory
import PropertyLint.Proofs.TypeTable.ClassHistory
import PropertyLint.Proofs.TypeTable.HierarchyClosure
import PropertyLint.Proofs.TypeTable.Instances
import PropertyLint.Proofs.TypeTable.Interning
import PropertyLint.Proofs.TypeTable.Sealing
import PropertyLint.Proofs.TypeTable.SealingBound
import PropertyLint.Proofs.TypeTable.Spelling
import PropertyLint.Proofs.TypeTable.Substitution
import PropertyLint.Proofs.TypeTable.Truncation
import PropertyLint.Proofs.TypeTable.TypeTrees
import PropertyLint.Settings.FileTree
import PropertyLint.Settings.Load
import PropertyLint.Settings.Path
import PropertyLint.Settings.Reader
import PropertyLint.Text.Alphabetic
import PropertyLint.Text.Bytes
import PropertyLint.Text.CodePoints
import PropertyLint.Text.Interner
import PropertyLint.Text.Joined
import PropertyLint.Text.LineMap
import PropertyLint.Text.Numeric
import PropertyLint.Text.Printable
import PropertyLint.Text.Quoted
import PropertyLint.Text.Span
import PropertyLint.Text.WhiteSpace
import PropertyLint.TypeExpr.Basic
import PropertyLint.TypeExpr.Parser
import PropertyLint.TypeExpr.Token
import PropertyLint.TypeTable.Basic
import PropertyLint.TypeTable.Builtin
import PropertyLint.TypeTable.Sealed
import PropertyLint.TypeTable.Service
import PropertyLint.TypeTable.Supertypes
import PropertyLint.Workspace
