import PropertyLint.Journal.Event
import PropertyLint.Journal.FieldQuery
import PropertyLint.Text.Alphabetic
import PropertyLint.Text.Numeric
import PropertyLint.Text.WhiteSpace

/-! Directives of a journal filter.

A directive gives the level up to which events are kept. It may ask for a text that the target
starts with, for an activity during which the event is told, and for a field:
`target[activity{field=value}]=level`, where each part may be left out.
-/

namespace PropertyLint

/-- Keeps events up to a rank; rank 0 keeps none. The empty target asks for nothing. -/
structure LogDirective where
  target : String := ""
  activity : Option String := none
  field : Option FieldQuery := none
  rank : Nat := LogLevel.trace.rank
deriving DecidableEq, Repr

/-- The rank that a number in decimal digits stands for, with or without a plus sign. -/
def rankOfNumber? (word : List Char) : Option Nat :=
  let digits := if word.head? = some '+' then word.drop 1 else word
  if digits.isEmpty || !digits.all Json.isDigit then none
  else
    let rank := digits.foldl (fun value c => 10 * value + Json.digitValue c) 0
    if rank ≤ LogLevel.trace.rank then some rank else none

/-- The rank that a word names, as a number or by the name of a level in any case of letters. -/
def rankOfWord? (word : List Char) : Option Nat :=
  match String.ofList (word.map Char.toLower) with
  | "off" => some 0
  | "error" => some LogLevel.error.rank
  | "warn" => some LogLevel.warn.rank
  | "info" => some LogLevel.info.rank
  | "debug" => some LogLevel.debug.rank
  | "trace" => some LogLevel.trace.rank
  | _ => rankOfNumber? word

namespace LogDirective

/-- Whether a directive may start with the character. -/
def isStart (c : Char) : Bool :=
  c = '[' || c = '-' || c = ':' || c = '_' || Text.isAlphabetic c || Text.isNumeric c

/-- The text without blanks at its ends. -/
def trimmed (text : List Char) : List Char :=
  ((text.dropWhile Text.isWhiteSpace).reverse.dropWhile Text.isWhiteSpace).reverse

/-- The part of the text between two offsets. -/
def part (whole : List Char) (start stop : Nat) : String :=
  String.ofList (Text.sliceBytes start stop whole)

/-- Completes a directive by the level behind an equals sign at an offset, if one follows. Without
a level the directive keeps all.
-/
def withLevel? (whole : List Char) (offset : Nat) (directive : LogDirective)
    : List Char → Option LogDirective
  | [] => some directive
  | '=' :: _ =>
    match Text.dropBytes (offset + 1) whole with
    | [] => some directive
    | word => (rankOfWord? word).map fun rank => { directive with rank }
  | _ :: _ => none

/-- Completes a directive by the activity and the field in brackets that start at an offset, then by
the level. Without a field, brackets ask for an activity even if its name is empty.
-/
def withBrackets? (whole : List Char) (offset : Nat) (directive : LogDirective)
    (text : List Char) : Option LogDirective :=
  let name := text.takeWhile fun c => c ≠ ']' && c ≠ '\x7b'
  let nameStop := offset + Text.byteLength name
  let activity := part whole offset nameStop
  match text.drop name.length with
  | ']' :: rest =>
    { directive with activity := some activity }.withLevel? whole (nameStop + 1) rest
  | '\x7b' :: inner =>
    let field := inner.takeWhile fun c => c ≠ '\x7d'
    let fieldStop := nameStop + 1 + Text.byteLength field
    match inner.drop field.length with
    | '\x7d' :: ']' :: rest => do
      let field ← FieldQuery.parse? (part whole (nameStop + 1) fieldStop)
      let activity := if activity = "" then none else some activity
      { directive with activity, field := some field }.withLevel? whole (fieldStop + 2) rest
    | _ => none
  | _ => none

/-- Reads a directive. A word alone is a level if it names one, and a target otherwise.

The marks that divide a directive are looked for in the text without blanks at its ends. The parts
between them are then taken at the same offsets from the text as it is, so blanks at the start shift
every part, and blanks at the end belong to the last word.
-/
def parse? (text : String) : Option LogDirective :=
  let whole := text.toList
  let marked := trimmed whole
  let word := marked.takeWhile fun c => c ≠ '=' && c ≠ '['
  let stop := Text.byteLength word
  let directive : LogDirective := { target := part whole 0 stop }
  if !marked.head?.any isStart then none
  else
    match marked.drop word.length with
    | [] =>
      match rankOfWord? whole with
      | some rank => some { rank }
      | none => some { target := text }
    | '[' :: rest => directive.withBrackets? whole (stop + 1) rest
    | rest => directive.withLevel? whole stop rest

/-- Whether two directives ask for the same, at whatever level. -/
def asksLike (directive other : LogDirective) : Bool :=
  { directive with rank := 0 } = { other with rank := 0 }

def matchesTarget (directive : LogDirective) (target : String) : Bool :=
  directive.target.toList.isPrefixOf target.toList

/-- Whether the directive decides about single events, at whatever time they are told. -/
def isStanding (directive : LogDirective) : Bool :=
  directive.activity.isNone && directive.field.all (·.value.isNone)

def matchesEvent (directive : LogDirective) (event : LogEvent) : Bool :=
  directive.isStanding && directive.matchesTarget event.target &&
    directive.field.all fun query =>
      query.name = "message" || event.fields.any fun field => field.1 = query.name

/-- Whether the directive speaks of inspections. It must ask for the activity or for a field, and an
inspection's only field is the file.
-/
def matchesInspection (directive : LogDirective) : Bool :=
  directive.matchesTarget LogEvent.inspectionTarget &&
    (directive.activity.isSome || directive.field.isSome) &&
    directive.activity.all (· = LogEvent.inspectionActivity) &&
    directive.field.all (·.name = "file")

def matchesInspectionOf (directive : LogDirective) (file : String) : Bool :=
  directive.matchesInspection && directive.field.all (·.admits file)

/-- The name of the field that is asked for; the empty text if none is. -/
def fieldName (directive : LogDirective) : String :=
  (directive.field.map (·.name)).getD ""

/-- Whether a directive is more particular than another one: its target is longer or, with equal
lengths, the name of its field is greater.
-/
def isNearer (directive other : LogDirective) : Bool :=
  other.target.length < directive.target.length ||
    (other.target.length = directive.target.length && other.fieldName < directive.fieldName)

end LogDirective

end PropertyLint
