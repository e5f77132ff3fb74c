import PropertyLint.Journal.Filter

/-! Starting the journal.

The environment says whether a journal is kept, what goes into it, and how it is written. It is
started at most once.
-/

namespace PropertyLint

/-- How the journal is written. -/
inductive LogFormat where
  | text
  | tree
  | json
deriving DecidableEq, Repr

/-- The format that a word names, in any case of letters; plain text if it names none.
Only characters of ASCII become the letters of these words in lower case.
-/
def LogFormat.ofWord (word : String) : LogFormat :=
  match (String.ofList (word.toList.map Char.toLower)) with
  | "tree" => .tree
  | "json" => .json
  | _ => .text

/-- What the environment says about the journal. -/
structure LogEnvironment where
  /-- The filter that is meant for this program. -/
  own : Option String := none
  /-- The filter that is meant for all programs. -/
  shared : Option String := none
  /-- The name of the format. -/
  format : Option String := none
deriving DecidableEq, Repr

namespace LogEnvironment

/-- The filter, if a journal is to be kept: the program's own one wins. -/
def filter? (environment : LogEnvironment) : Option LogFilter :=
  (environment.own.or environment.shared).map LogFilter.parse

/-- The format of the journal. -/
def logFormat (environment : LogEnvironment) : LogFormat :=
  .ofWord (environment.format.getD "")

end LogEnvironment

/-- A journal that may have been started, and all that has been told since. -/
structure Log where
  filter : Option LogFilter := none
  events : List LogEvent := []
deriving Repr, Inhabited

namespace Log

/-- Tells events. They are lost when the journal has not been started. -/
def tell (log : Log) (events : List LogEvent) : Log :=
  match log.filter with
  | none => log
  | some filter => { log with events := log.events ++ filter.select events }

/-- Starts the journal, unless the environment asks for none or it has been started before. -/
def start (log : Log) (environment : LogEnvironment) : Bool × Log :=
  match environment.filter?, log.filter with
  | none, _ => (false, log)
  | some filter, none => (true, { log with filter := some filter })
  | some _, some _ => (false, log.tell [.alreadyInstalled])

/-- Starts the journal several times over. -/
def startTimes (log : Log) (environment : LogEnvironment) : Nat → List Bool × Log
  | 0 => ([], log)
  | times + 1 =>
    let (started, log) := log.start environment
    let (later, log) := log.startTimes environment times
    (started :: later, log)

/-- The events that the journal writes as JSON objects: all of them when that is its format. -/
def jsonEvents (log : Log) (environment : LogEnvironment) : List LogEvent :=
  if environment.logFormat = .json then log.events else []

end Log

end PropertyLint
