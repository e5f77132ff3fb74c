import PropertyLint.Pattern.Basic
import PropertyLint.Text.WhiteSpace

/-! How the parts of a pattern are to be understood. -/

namespace PropertyLint

/-- The settings that a pattern may change for the rest of a group. -/
structure PatternMode where
  /-- Letters match in both cases. -/
  caseless : Bool := false
  /-- Lines have starts and ends. -/
  multiLine : Bool := false
  /-- A dot matches the end of a line too. -/
  dotAll : Bool := false
  /-- Repetitions are greedy where they would not be. -/
  swapGreed : Bool := false
  /-- Sets may hold characters beyond ASCII. -/
  unicode : Bool := true
  /-- A carriage return ends a line. -/
  crlf : Bool := false
  /-- Blanks and comments between the parts do not count. -/
  verbose : Bool := false
deriving DecidableEq, Repr, Inhabited

namespace PatternMode

/-- Changes the setting with a letter. -/
def change? (mode : PatternMode) (value : Bool) : Char → Option PatternMode
  | 'i' => some { mode with caseless := value }
  | 'm' => some { mode with multiLine := value }
  | 's' => some { mode with dotAll := value }
  | 'U' => some { mode with swapGreed := value }
  | 'u' => some { mode with unicode := value }
  | 'R' => some { mode with crlf := value }
  | 'x' => some { mode with verbose := value }
  | _ => none

/-- Passes over blanks, and over comments from a number sign to the end of the line. -/
def skipVerbose (inComment : Bool) : List Char → List Char
  | [] => []
  | c :: rest =>
    if inComment then skipVerbose (c ≠ '\n') rest
    else if c = '#' then skipVerbose true rest
    else if Text.isWhiteSpace c then skipVerbose false rest
    else c :: rest

/-- Passes over what does not count between parts. -/
def skip (mode : PatternMode) (text : List Char) : List Char :=
  if mode.verbose then skipVerbose false text else text

/-- The next character that counts. A number sign is passed over like a blank. -/
def peek? (mode : PatternMode) (text : List Char) : Option Char :=
  if mode.verbose then
    match text.dropWhile Text.isWhiteSpace with
    | '#' :: rest => (rest.dropWhile Text.isWhiteSpace).head?
    | rest => rest.head?
  else text.head?

/-- The set with both cases of its letters, where these do not differ. Letters beyond ASCII are not
known, so a set that might hold some is refused.
-/
def fold? (mode : PatternMode) (set : CharSet) : Option CharSet :=
  if !mode.caseless || set.isEmpty then some set
  else if mode.unicode then none
  else some set.withBothCases

/-- The characters outside a set. Where sets are of ASCII only, there are none that could be meant.
-/
def complement? (mode : PatternMode) (set : CharSet) : Option CharSet :=
  if mode.unicode then some set.complement else none

def dot? (mode : PatternMode) : Option CharSet :=
  if !mode.unicode then none
  else if mode.dotAll then some CharSet.empty.complement
  else if mode.crlf then some (CharSet.ofRanges [('\n', '\n'), ('\r', '\r')]).complement
  else some (CharSet.single '\n').complement

/-- The place that a circumflex stands for. -/
def start (mode : PatternMode) : Look :=
  if mode.multiLine then if mode.crlf then .crlfLineStart else .lineStart else .textStart

/-- The place that a dollar sign stands for. -/
def stop (mode : PatternMode) : Look :=
  if mode.multiLine then if mode.crlf then .crlfLineEnd else .lineEnd else .textEnd

end PatternMode

end PropertyLint
