import PropertyLint.Pattern.CharSet

/-! Regular expressions. -/

namespace PropertyLint

/-- What a pattern may ask of a place in a text without taking a character. Lines end at line feeds;
for the places `crlf…` a carriage return, alone or before a line feed, ends a line too. Words are
made of letters and digits of ASCII and the low line.
-/
inductive Look where
  | textStart
  | textEnd
  | lineStart
  | lineEnd
  | crlfLineStart
  | crlfLineEnd
  | wordBoundary
  | noWordBoundary
  | wordStart
  | wordEnd
deriving DecidableEq, Repr

namespace Look

/-- Whether a character is there and belongs to a word. -/
def isWord (c : Option Char) : Bool :=
  c.any CharSet.wordCharacters.contains

/-- Whether the character before a place, if there is one, is enough to know that it is as asked. -/
def holdsAfter (before : Option Char) : Look → Bool
  | .textStart => before.isNone
  | .lineStart | .crlfLineStart => before.all (· = '\n')
  | _ => false

/-- Whether a place between two characters, where the text has them, is as asked. -/
def holds (before after : Option Char) : Look → Bool
  | .textStart => before.isNone
  | .textEnd => after.isNone
  | .lineStart => before.all (· = '\n')
  | .lineEnd => after.all (· = '\n')
  | .crlfLineStart => before.all (· = '\n') || before = some '\r' && after ≠ some '\n'
  | .crlfLineEnd => after.all (· = '\r') || after = some '\n' && before ≠ some '\r'
  | .wordBoundary => isWord before != isWord after
  | .noWordBoundary => isWord before == isWord after
  | .wordStart => !isWord before && isWord after
  | .wordEnd => isWord before && !isWord after

end Look

/-- A regular expression. Repetitions that are greedy go on if they can. -/
inductive Pattern where
  | empty
  | one (set : CharSet)
  | look (look : Look)
  | sequence (first second : Pattern)
  | choice (first second : Pattern)
  | optional (greedy : Bool) (body : Pattern)
  | many (greedy : Bool) (body : Pattern)
  | atLeastOnce (greedy : Bool) (body : Pattern)
deriving DecidableEq, Repr, Inhabited

namespace Pattern

/-- Whether a match takes at least one character. -/
def takesText : Pattern → Bool
  | .empty | .look _ | .optional _ _ | .many _ _ => false
  | .one _ => true
  | .sequence first second => first.takesText || second.takesText
  | .choice first second => first.takesText && second.takesText
  | .atLeastOnce _ body => body.takesText

/-- Whether no match takes a character. -/
def takesNothing : Pattern → Bool
  | .empty | .look _ => true
  | .one _ => false
  | .sequence first second | .choice first second => first.takesNothing && second.takesNothing
  | .optional _ body | .many _ body | .atLeastOnce _ body => body.takesNothing

end Pattern

end PropertyLint
