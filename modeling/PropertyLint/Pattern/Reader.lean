import PropertyLint.Pattern.Automaton
import PropertyLint.Pattern.SetReader
import PropertyLint.Text.Alphabetic
import PropertyLint.Text.Numeric

/-! Regular expressions as they are written.

Besides plain characters there are escapes, sets in square brackets, groups, alternatives and the
repetitions `*`, `+` and `?`, which a further `?` makes prefer the shorter match. A group may have a
name, and may change how its parts are to be understood. Counted repetitions and properties of
characters by name are not known, and digits, blanks, words and both cases of letters only for ASCII
and where this is asked for.
-/

namespace PropertyLint.Pattern

/-- A part of a pattern that has been read. `depth` tells how deep it is nested. -/
structure Part where
  pattern : Pattern := .empty
  depth : Nat := 0
  /-- The part only changes the mode. -/
  isMode : Bool := false
deriving Repr, Inhabited

/-- The greatest depth of a pattern. -/
def depthLimit : Nat := 250

/-- A group that has been opened: its finished alternatives and the parts of the one that is being
read, both last first, and the mode behind the group.
-/
structure OpenGroup where
  alternatives : List Part := []
  parts : List Part := []
  outerMode : PatternMode := {}
deriving Repr, Inhabited

namespace OpenGroup

/-- Adds a part. -/
def push (group : OpenGroup) (part : Part) : OpenGroup :=
  { group with parts := part :: group.parts }

/-- Joins parts, last first, by an operation. Several parts are one level of their own. -/
def join (operation : Pattern → Pattern → Pattern) : List Part → Part
  | [] => {}
  | [part] => part
  | last :: before =>
    let joined : Part := before.foldl
      (fun joined part =>
        { pattern := operation part.pattern joined.pattern, depth := max part.depth joined.depth })
      { pattern := last.pattern, depth := last.depth }
    { joined with depth := joined.depth + 1 }

/-- The alternative that is being read. -/
def current (group : OpenGroup) : Part :=
  join .sequence group.parts

def startAlternative (group : OpenGroup) : OpenGroup :=
  { group with alternatives := group.current :: group.alternatives, parts := [] }

/-- What has been read of the group. -/
def total (group : OpenGroup) : Part :=
  join .choice (group.current :: group.alternatives)

/-- Repeats the last part, if there is one. A part that takes no text need not be repeated more than
once.
-/
def repeatLast? (group : OpenGroup) (mark : Char) (greedy : Bool) : Option OpenGroup :=
  match group.parts with
  | [] => none
  | part :: before =>
    if part.isMode then none
    else
      let body := part.pattern
      let pattern : Pattern :=
        if mark = '?' || mark = '*' && body.takesNothing then .optional greedy body
        else if mark = '*' then .many greedy body
        else if body.takesNothing then body
        else .atLeastOnce greedy body
      some { group with parts := { pattern, depth := part.depth + 1 } :: before }

end OpenGroup

/-- Reads the letters that change the mode, up to a colon or a closing bracket. Whether the group
ends there comes with the mode. No letter may stand twice, and behind a minus sign must be one.
-/
def readMode? (mode : PatternMode) (letters : List Char) (negated dangling : Bool)
    : List Char → Option (PatternMode × Bool × List Char)
  | [] => none
  | ':' :: rest => if dangling then none else some (mode, false, rest)
  | ')' :: rest => if dangling || letters.isEmpty then none else some (mode, true, rest)
  | '-' :: rest => if negated then none else readMode? mode letters true true rest
  | c :: rest => do
    let mode ← mode.change? (!negated) c
    if letters.contains c then none else readMode? mode (c :: letters) negated false rest

def readGroupName? (text : List Char) : Option (List Char × List Char) :=
  let name := text.takeWhile fun c => c ≠ '>'
  let isStart (c : Char) : Bool := c = '_' || Text.isAlphabetic c
  let isNext (c : Char) : Bool :=
    isStart c || c = '.' || c = '[' || c = ']' || Text.isNumeric c
  match text.drop name.length with
  | '>' :: rest => if name.head?.any isStart && name.all isNext then some (name, rest) else none
  | _ => none

def literal? (mode : PatternMode) (c : Char) : Option Part :=
  (mode.fold? (.single c)).map fun set => { pattern := .one set }

/-- Reads the rest of a pattern into the innermost open group, in at most `budget` steps. Names of
groups must differ.
-/
def readWithin (mode : PatternMode) (names : List (List Char)) (outer : List OpenGroup)
    (group : OpenGroup) : Nat → List Char → Option Part
  | 0, _ => none
  | budget + 1, text =>
    match mode.skip text with
    | [] => if outer.isEmpty then some group.total else none
    | '(' :: rest =>
      let inner : OpenGroup := { outerMode := mode }
      match mode.skip rest with
      | '?' :: 'P' :: '<' :: rest | '?' :: '<' :: rest => do
        let (name, rest) ← readGroupName? rest
        if names.contains name then none
        else readWithin mode (name :: names) (group :: outer) inner budget rest
      | '?' :: rest => do
        let (changed, ends, rest) ← readMode? mode [] false false rest
        if ends then readWithin changed names outer (group.push { isMode := true }) budget rest
        else readWithin changed names (group :: outer) inner budget rest
      | rest => readWithin mode names (group :: outer) inner budget rest
    | ')' :: rest =>
      match outer with
      | [] => none
      | enclosing :: outer =>
        let total := group.total
        let part : Part := { pattern := total.pattern, depth := total.depth + 1 }
        readWithin group.outerMode names outer (enclosing.push part) budget rest
    | '|' :: rest => readWithin mode names outer group.startAlternative budget rest
    | '[' :: rest => do
      let (set, depth, rest) ← readSet? mode rest
      readWithin mode names outer (group.push { pattern := .one set, depth }) budget rest
    | '\x7b' :: _ => none
    | '\\' :: rest => do
      let (escape, rest) ← readEscape? mode rest
      let part ← (match escape with
        | .char c => literal? mode c
        | .set set => (mode.fold? set).map fun set => { pattern := .one set }
        | .look place => some { pattern := .look place } : Option Part)
      readWithin mode names outer (group.push part) budget rest
    | '.' :: rest => do
      readWithin mode names outer (group.push { pattern := .one (← mode.dot?) }) budget rest
    | '^' :: rest =>
      readWithin mode names outer (group.push { pattern := .look mode.start }) budget rest
    | '$' :: rest =>
      readWithin mode names outer (group.push { pattern := .look mode.stop }) budget rest
    | c :: rest =>
      if c = '*' || c = '+' || c = '?' then
        let isLazy := rest.head? = some '?'
        let greedy := isLazy == mode.swapGreed
        do
          readWithin mode names outer (← group.repeatLast? c greedy) budget
            (if isLazy then rest.drop 1 else rest)
      else do
        readWithin mode names outer (group.push (← literal? mode c)) budget rest

/-- Reads a pattern. Every step takes a character, and one more finds the end. -/
def parse? (text : String) : Option Pattern := do
  let part ← readWithin {} [] [] {} (text.toList.length + 1) text.toList
  if part.depth ≤ depthLimit then some part.pattern else none

end PropertyLint.Pattern
