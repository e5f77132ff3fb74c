import PropertyLint.Text.Alphabetic
import PropertyLint.Text.Bytes
import PropertyLint.Text.Numeric
import PropertyLint.Text.WhiteSpace

/-! Tokens of type expressions.

The scanner skips white space and yields one token at a time with its byte range. A name is taken
as long as it goes; every other token is one character. At the end of the text the scanner keeps
yielding the end token.
-/

namespace PropertyLint

open Text

/-- What a token is. -/
inductive TokenKind where
  | identifier
  | dot
  | comma
  | less
  | greater
  | question
  | asterisk
  /-- A character that no type expression contains. -/
  | unknown
  | endOfText
deriving DecidableEq, Repr, Inhabited

/-- A token with the bytes it covers and its text. -/
structure Token where
  kind : TokenKind
  start : Nat
  stop : Nat
  text : String
deriving DecidableEq, Repr, Inhabited

/-- The characters that start a name: an underscore or a letter. -/
def isIdentifierStart (c : Char) : Bool :=
  c == '_' || isAlphabetic c

/-- The characters that continue a name: those that start one, and numbers. -/
def isIdentifierPart (c : Char) : Bool :=
  c == '_' || isAlphabetic c || isNumeric c

def TokenKind.ofChar : Char → TokenKind
  | '.' => .dot
  | ',' => .comma
  | '<' => .less
  | '>' => .greater
  | '?' => .question
  | '*' => .asterisk
  | _ => .unknown

/-- The text that is still to be scanned and the offset at which it starts. -/
structure Scanner where
  rest : List Char
  offset : Nat := 0
deriving Repr, Inhabited

namespace Scanner

def ofText (text : String) : Scanner where
  rest := text.toList

def next (scanner : Scanner) : Token × Scanner :=
  let start := scanner.offset + byteLength (scanner.rest.takeWhile isWhiteSpace)
  match scanner.rest.dropWhile isWhiteSpace with
  | [] => (⟨.endOfText, start, start, ""⟩, ⟨[], start⟩)
  | c :: rest =>
    if isIdentifierStart c then
      let word := c :: rest.takeWhile isIdentifierPart
      let stop := start + byteLength word
      (⟨.identifier, start, stop, String.ofList word⟩, ⟨rest.dropWhile isIdentifierPart, stop⟩)
    else
      let stop := start + c.utf8Size
      (⟨.ofChar c, start, stop, String.singleton c⟩, ⟨rest, stop⟩)

/-- A character alone is never the end token. -/
theorem ofChar_ne_endOfText (c : Char) : TokenKind.ofChar c ≠ .endOfText := by
  unfold TokenKind.ofChar
  split <;> simp

/-- A token other than the end token takes at least one character off the text. -/
theorem next_rest_length_lt {scanner : Scanner}
    (more : scanner.next.1.kind ≠ .endOfText)
    : scanner.next.2.rest.length < scanner.rest.length := by
  have shorter : (scanner.rest.dropWhile isWhiteSpace).length ≤ scanner.rest.length :=
    (List.dropWhile_suffix isWhiteSpace).length_le
  unfold next at more ⊢
  cases left : scanner.rest.dropWhile isWhiteSpace with
  | nil => simp [left] at more
  | cons c rest =>
    rw [left, List.length_cons] at shorter
    have tail : (rest.dropWhile isIdentifierPart).length ≤ rest.length :=
      (List.dropWhile_suffix isIdentifierPart).length_le
    dsimp only
    split <;> dsimp only <;> omega

/-- All tokens before the end of the text, and the scanner that stands at the end. -/
def tokens (scanner : Scanner) : List Token × Scanner :=
  if _ : scanner.next.1.kind ≠ .endOfText then
    let (later, last) := scanner.next.2.tokens
    (scanner.next.1 :: later, last)
  else ([], scanner.next.2)
termination_by scanner.rest.length
decreasing_by exact next_rest_length_lt ‹_›

end Scanner

end PropertyLint
