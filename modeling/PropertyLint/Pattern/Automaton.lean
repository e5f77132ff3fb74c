import PropertyLint.Pattern.Basic

/-! Matching by an automaton.

The automaton of a pattern follows all ways to match at once, in the order of preference, and the
search for a match starts anew at every place as long as none has been found. When a way comes to its
end, ways that are preferred less are given up. So at the end of a text a way is left that has just
come to its end if, and only if, the first match that a search prefers reaches to the end.
-/

namespace PropertyLint

/-- What is done in a state of an automaton, and the numbers of the states that are entered next. -/
inductive Move where
  | take (set : CharSet) (next : Nat)
  /-- Goes on where a place is as asked. -/
  | check (look : Look) (next : Nat)
  /-- Goes on in two ways, the first of which is preferred. -/
  | split (first second : Nat)
  | accept
deriving Repr, Inhabited

/-- The moves of all states by their numbers, and the state in which a match starts. -/
structure Automaton where
  moves : Array Move
  start : Nat
deriving Repr, Inhabited

/-- Goes on with a body, or leaves it. -/
def Move.loop (greedy : Bool) (body next : Nat) : Move :=
  if greedy then .split body next else .split next body

/-- Adds states for a pattern before a state. The number of the first state comes with them.

A repetition is entered through its loop state. If its body can match nothing, it is entered through
a state of its own, for the loop state is then only for leaving and going on.
-/
def Pattern.addMoves (moves : Array Move) (next : Nat) : Pattern → Nat × Array Move
  | .empty => (next, moves)
  | .one set => (moves.size, moves.push (.take set next))
  | .look place => (moves.size, moves.push (.check place next))
  | .sequence first second =>
    let (middle, moves) := second.addMoves moves next
    first.addMoves moves middle
  | .choice first second =>
    let (left, moves) := first.addMoves moves next
    let (right, moves) := second.addMoves moves next
    (moves.size, moves.push (.split left right))
  | .optional greedy body =>
    let (entry, moves) := body.addMoves moves next
    (moves.size, moves.push (.loop greedy entry next))
  | .many greedy body =>
    let loop := moves.size
    let (entry, moves) := body.addMoves (moves.push .accept) loop
    let moves := moves.setIfInBounds loop (.loop greedy entry next)
    if body.takesText then (loop, moves)
    else (moves.size, moves.push (.loop greedy entry next))
  | .atLeastOnce greedy body =>
    let loop := moves.size
    let (entry, moves) := body.addMoves (moves.push .accept) loop
    (entry, moves.setIfInBounds loop (.loop greedy entry next))

def Pattern.toAutomaton (pattern : Pattern) : Automaton :=
  let (start, moves) := pattern.addMoves #[.accept] 0
  { moves, start }

namespace Automaton

/-- Adds the states that the given ones lead to without taking a character, each once and in the
order of preference, to those that were reached before. The last one reached comes first.
-/
def reachWithin (automaton : Automaton) (holds : Look → Bool)
    : Nat → List Nat → List Nat → List Nat
  | 0, _, reached => reached
  | _ + 1, [], reached => reached
  | budget + 1, state :: pending, reached =>
    if reached.contains state then automaton.reachWithin holds budget pending reached
    else
      let pending :=
        match automaton.moves[state]? with
        | some (.check place next) => if holds place then next :: pending else pending
        | some (.split first second) => first :: second :: pending
        | _ => pending
      automaton.reachWithin holds budget pending (state :: reached)

/-- The states that a state leads to, added to those that were reached before. Every state is left at
most once and in at most two ways.
-/
def reach (automaton : Automaton) (holds : Look → Bool) (reached : List Nat) (state : Nat)
    : List Nat :=
  automaton.reachWithin holds (2 * automaton.moves.size + 2) [state] reached

/-- The states that are more than a way to others, in the order in which they were reached. -/
def ways (automaton : Automaton) (reached : List Nat) : List Nat :=
  reached.reverse.filter fun state =>
    match automaton.moves[state]? with
    | some (.split _ _) => false
    | _ => true

/-- Whether a state ends a match. -/
def isAccepting (automaton : Automaton) (state : Nat) : Bool :=
  match automaton.moves[state]? with
  | some .accept => true
  | _ => false

/-- Follows the looks that the next character, or the end of the text, makes hold. If there are
none, the states stay as they are.
-/
def lookAhead (automaton : Automaton) (before after : Option Char) (states : List Nat)
    : List Nat :=
  let news := states.any fun state =>
    match automaton.moves[state]? with
    | some (.check place _) => place.holds before after && !place.holdsAfter before
    | _ => false
  if news then automaton.ways (states.foldl (automaton.reach (·.holds before after)) [])
  else states

/-- Whether nothing can be matched between two bytes of one character. Neither byte belongs to a
word there, and no line or text starts or ends.
-/
def splitsCharacters (automaton : Automaton) : Bool :=
  (automaton.reach (· = .noWordBoundary) [] automaton.start).any automaton.isAccepting

/-- The states behind a character, and whether the search still starts anew. -/
def advance (automaton : Automaton) (searching : Bool) (c : Char) (states : List Nat)
    : List Nat × Bool :=
  let alive := states.takeWhile fun state => !automaton.isAccepting state
  let searching := searching && alive.length = states.length &&
    (c.utf8Size = 1 || !automaton.splitsCharacters)
  let holds := Look.holdsAfter (some c)
  let reached := alive.foldl
    (fun reached state =>
      match automaton.moves[state]? with
      | some (.take set next) =>
        if set.contains c then automaton.reach holds reached next else reached
      | _ => reached)
    []
  let reached := if searching then automaton.reach holds reached automaton.start else reached
  (automaton.ways reached, searching)

/-- Whether the preferred match reaches to the end of a text, from states that were reached behind a
character.
-/
def run (automaton : Automaton) (searching : Bool) (before : Option Char) (states : List Nat)
    : List Char → Bool
  | [] => (automaton.lookAhead before none states).any automaton.isAccepting
  | c :: rest =>
    let (next, searching) :=
      automaton.advance searching c (automaton.lookAhead before (some c) states)
    automaton.run searching (some c) next rest

end Automaton

/-- Whether the first match of the pattern in a text that a search prefers reaches to the end of the
text. Matches that start earlier are preferred.
-/
def Pattern.matchesEnd (pattern : Pattern) (text : String) : Bool :=
  let automaton := pattern.toAutomaton
  let first := automaton.ways (automaton.reach (Look.holdsAfter none) [] automaton.start)
  automaton.run true none first text.toList

end PropertyLint
