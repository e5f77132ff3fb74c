import PropertyLint.Json.Text
import PropertyLint.Pattern.Mode

/-! Escapes and sets in square brackets, as they are written in patterns.

A set lists characters, ranges, named classes and further sets. Between two lists may stand `&&`,
`--` or `~~`, for what both have in common, the first less the second, and what only one has; these
are taken from left to right.
-/

namespace PropertyLint.Pattern

/-- What an escape stands for. -/
inductive Escape where
  | char (c : Char)
  | set (set : CharSet)
  | look (look : Look)
deriving DecidableEq, Repr

/-- Reads so many hexadecimal digits, and goes on with the value of those before. -/
def readHex? (mode : PatternMode) (value : Nat) : Nat → List Char → Option (Nat × List Char)
  | 0, text => some (value, text)
  | _ + 1, [] => none
  | count + 1, c :: rest => do
    let digit ← Json.hexValue? c
    readHex? mode (16 * value + digit) count (mode.skip rest)

/-- Reads a character by the hexadecimal digits of its number. Where sets are of ASCII only, two
digits are a byte, which must be one of ASCII.
-/
def readHexChar? (mode : PatternMode) (count : Nat) (text : List Char)
    : Option (Escape × List Char) := do
  let (point, rest) ← readHex? mode 0 count (mode.skip text)
  if !point.isValidChar || count = 2 && !mode.unicode && 0x7F < point then none
  else some (.char (Char.ofNat point), rest)

/-- Reads an escape; the text starts behind the backslash. Digits, blanks and words are known for
ASCII only.
-/
def readEscape? (mode : PatternMode) : List Char → Option (Escape × List Char)
  | [] => none
  | 'A' :: rest => some (.look .textStart, rest)
  | 'z' :: rest => some (.look .textEnd, rest)
  | 'a' :: rest => some (.char '\x07', rest)
  | 'f' :: rest => some (.char '\x0c', rest)
  | 'n' :: rest => some (.char '\n', rest)
  | 'r' :: rest => some (.char '\r', rest)
  | 't' :: rest => some (.char '\t', rest)
  | 'v' :: rest => some (.char '\x0b', rest)
  | 'x' :: rest => readHexChar? mode 2 rest
  | 'u' :: rest => readHexChar? mode 4 rest
  | 'U' :: rest => readHexChar? mode 8 rest
  | c :: rest =>
    if c.toNat < 0x80 && !c.isAlphanum && c ≠ '<' && c ≠ '>' then some (.char c, rest)
    else if mode.unicode then none
    else
      match c with
      | 'd' => some (.set .digits, rest)
      | 's' => some (.set .blanks, rest)
      | 'w' => some (.set .wordCharacters, rest)
      | 'b' => some (.look .wordBoundary, rest)
      | 'B' => some (.look .noWordBoundary, rest)
      | '<' => some (.look .wordStart, rest)
      | '>' => some (.look .wordEnd, rest)
      | _ => none

def readMember? (mode : PatternMode) : List Char → Option (Escape × List Char)
  | [] => none
  | '\\' :: rest => readEscape? mode rest
  | c :: rest => some (.char c, rest)

/-- The characters from one to another, if they may be in a set. -/
def setRange? (mode : PatternMode) (low high : Char) : Option CharSet :=
  if low ≤ high && (mode.unicode || high.toNat < 0x80) then some (.range low high) else none

/-- Reads a range or a single member of a set. A hyphen before the end of the set or before another
hyphen does not make a range.
-/
def readRange? (mode : PatternMode) (text : List Char) : Option (CharSet × List Char) := do
  let (member, rest) ← readMember? mode text
  match mode.skip rest with
  | [] => none
  | '-' :: behind =>
    let next := mode.peek? behind
    if next = some ']' || next = some '-' then
      match member with
      | .char c => (setRange? mode c c).map fun set => (set, '-' :: behind)
      | .set set => some (set, '-' :: behind)
      | .look _ => none
    else
      match member, readMember? mode (mode.skip behind) with
      | .char low, some (.char high, rest) => (setRange? mode low high).map fun set => (set, rest)
      | _, _ => none
  | rest =>
    match member with
    | .char c => (setRange? mode c c).map fun set => (set, rest)
    | .set set => some (set, rest)
    | .look _ => none

/-- Reads a class with a name; the text starts behind the first colon. -/
def readNamedClass? (text : List Char) : Option (Bool × CharSet × List Char) :=
  let negated := text.head? = some '^'
  let inner := if negated then text.drop 1 else text
  let name := inner.takeWhile fun c => c ≠ ':'
  match inner.drop name.length with
  | ':' :: ']' :: rest =>
    (CharSet.ofClassName? (String.ofList name)).map fun set => (negated, set, rest)
  | _ => none

/-- An operation on two sets. -/
inductive SetOperation where
  | intersection
  | difference
  | symmetricDifference
deriving DecidableEq, Repr

/-- The result of an operation. -/
def SetOperation.apply : SetOperation → CharSet → CharSet → CharSet
  | .intersection => CharSet.intersection
  | .difference => CharSet.difference
  | .symmetricDifference => CharSet.symmetricDifference

/-- A set that is being read. `depth` tells how deep sets and operations are nested in it. -/
structure OpenSet where
  negated : Bool := false
  /-- What stands before the last operation, with its depth. -/
  left : Option (SetOperation × CharSet × Nat) := none
  /-- What has been listed since. -/
  listed : CharSet := .empty
  count : Nat := 0
  depth : Nat := 0
deriving Repr, Inhabited

namespace OpenSet

/-- Adds a member or several, with the depth of what stands for them. -/
def push (set : OpenSet) (members : CharSet) (depth : Nat := 0) : OpenSet :=
  { set with
    listed := set.listed.union members, count := set.count + 1, depth := max set.depth depth }

/-- What has been listed, with its depth: several members are one level of their own. -/
def operand (set : OpenSet) : CharSet × Nat :=
  (set.listed, if set.count < 2 then set.depth else set.depth + 1)

/-- All that has been read, with its depth. -/
def total? (mode : PatternMode) (set : OpenSet) : Option (CharSet × Nat) :=
  match set.left with
  | none => some set.operand
  | some (operation, left, leftDepth) => do
    let (right, rightDepth) := set.operand
    let left ← mode.fold? left
    let right ← mode.fold? right
    some (operation.apply left right, max leftDepth rightDepth + 1)

/-- Starts the list behind an operation. -/
def operate? (mode : PatternMode) (operation : SetOperation) (set : OpenSet) : Option OpenSet := do
  let (left, depth) ← set.total? mode
  some { negated := set.negated, left := some (operation, left, depth) }

/-- The set, with its depth. -/
def close? (mode : PatternMode) (set : OpenSet) : Option (CharSet × Nat) := do
  let (total, depth) ← set.total? mode
  let folded ← mode.fold? total
  let members ← if set.negated then mode.complement? folded else some folded
  some (members, depth + 1)

end OpenSet

/-- Opens a set; the text starts behind the bracket. Hyphens at the start are members, and so is a
closing bracket right at the start.
-/
def openSet (mode : PatternMode) (text : List Char) : OpenSet × List Char :=
  let text := mode.skip text
  let negated := text.head? = some '^'
  let text := if negated then mode.skip (text.drop 1) else text
  let rec takeHyphens (set : OpenSet) : Nat → List Char → OpenSet × List Char
    | budget + 1, '-' :: rest => takeHyphens (set.push (.single '-')) budget (mode.skip rest)
    | _, text => (set, text)
  match takeHyphens { negated } text.length text with
  | (set, ']' :: rest) =>
    if set.count = 0 then (set.push (.single ']'), mode.skip rest) else (set, ']' :: rest)
  | opened => opened

/-- Reads a set up to its closing bracket, in at most `budget` steps, with its depth. Every step
takes a character.
-/
def readSetWithin (mode : PatternMode)
    : Nat → OpenSet × List Char → Option (CharSet × Nat × List Char)
  | 0, _ => none
  | budget + 1, (set, text) =>
    let nested (rest : List Char) : Option (CharSet × Nat × List Char) := do
      let (members, depth, rest) ← readSetWithin mode budget (openSet mode rest)
      readSetWithin mode budget (set.push members depth, rest)
    match mode.skip text with
    | [] => none
    | ']' :: rest => (set.close? mode).map fun (members, depth) => (members, depth, rest)
    | '[' :: ':' :: rest =>
      match readNamedClass? rest with
      | some (negated, members, rest) => do
        let members ← mode.fold? members
        let members ← if negated then mode.complement? members else some members
        readSetWithin mode budget (set.push members, rest)
      | none => nested (':' :: rest)
    | '[' :: rest => nested rest
    | '&' :: '&' :: rest => do
      readSetWithin mode budget (← set.operate? mode .intersection, rest)
    | '-' :: '-' :: rest => do
      readSetWithin mode budget (← set.operate? mode .difference, rest)
    | '~' :: '~' :: rest => do
      readSetWithin mode budget (← set.operate? mode .symmetricDifference, rest)
    | text => do
      let (members, rest) ← readRange? mode text
      readSetWithin mode budget (set.push members, rest)

/-- Reads a set, with its depth; the text starts behind the opening bracket. -/
def readSet? (mode : PatternMode) (text : List Char) : Option (CharSet × Nat × List Char) :=
  readSetWithin mode (text.length + 1) (openSet mode text)

end PropertyLint.Pattern
