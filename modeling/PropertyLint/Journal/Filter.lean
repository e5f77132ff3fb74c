import PropertyLint.Journal.Directive

/-! Which events are kept.

A filter is a list of directives separated by commas. An event is kept when the most particular of
the directives that speak of it allows its level, or when it is told during the inspection of a
file and a directive that speaks of that inspection allows it.
-/

namespace PropertyLint

/-- The directives of a filter, no two of which ask for the same. -/
structure LogFilter where
  directives : List LogDirective := []
deriving DecidableEq, Repr

namespace LogFilter

/-- Adds a directive, in place of one that asks for the same. -/
def insert (filter : LogFilter) (directive : LogDirective) : LogFilter :=
  ⟨(filter.directives.filter fun other => !directive.asksLike other) ++ [directive]⟩

/-- Reads a filter. Directives that cannot be read are left out; without any, errors are kept. -/
def parse (text : String) : LogFilter :=
  match ((text.splitOn ",").filter (· ≠ "")).filterMap LogDirective.parse? with
  | [] => ⟨[{ rank := LogLevel.error.rank }]⟩
  | directives => directives.foldl insert {}

/-- The most particular directive among those that satisfy a test. -/
def decisive? (filter : LogFilter) (test : LogDirective → Bool) : Option LogDirective :=
  (filter.directives.filter test).foldl
    (fun best directive => if best.all directive.isNearer then some directive else best)
    none

/-- Whether an event is kept for what it is. -/
def keeps (filter : LogFilter) (event : LogEvent) : Bool :=
  (filter.decisive? (·.matchesEvent event)).any fun directive =>
    event.level.rank ≤ directive.rank

/-- Whether an event is kept for being told during the inspection of a file. -/
def keepsDuringInspection (filter : LogFilter) (event : LogEvent) : Bool :=
  event.file.any fun file => filter.directives.any fun directive =>
    directive.matchesInspectionOf file && event.level.rank ≤ directive.rank

/-- Whether events tell of the inspection during which they are told: when a directive speaks of
inspections, or else when the most particular directive for their target allows debugging.
-/
def tellsInspection (filter : LogFilter) : Bool :=
  filter.directives.any LogDirective.matchesInspection ||
    (filter.decisive? fun directive =>
      directive.isStanding && directive.matchesTarget LogEvent.inspectionTarget).any
      fun directive => LogLevel.debug.rank ≤ directive.rank

/-- The events that are kept, with the file under inspection if inspections are told. -/
def select (filter : LogFilter) (events : List LogEvent) : List LogEvent :=
  (events.filter fun event => filter.keeps event || filter.keepsDuringInspection event).map
    fun event => if filter.tellsInspection then event else { event with file := none }

end LogFilter

end PropertyLint
