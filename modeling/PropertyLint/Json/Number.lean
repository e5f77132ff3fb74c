import PropertyLint.Json.Text

/-! Numbers in JSON.

A number that is read must have a value: an integer of 64 bits if it is written as one and fits,
and a binary floating-point number otherwise, which must be finite. Of a long row of digits only
those count that fit into 64 bits; the others move the decimal point. A number that is skipped only
has to be written correctly.
-/

namespace PropertyLint.Json

open Number (Binary64)

/-- The decimal digits. -/
def isDigit (c : Char) : Bool :=
  '0' ≤ c && c ≤ '9'

def digitValue (c : Char) : Nat :=
  c.toNat - '0'.toNat

def startsWithDigit : List Char → Bool
  | c :: _ => isDigit c
  | [] => false

/-- Appends digits to `significand` as long as the result fits into 64 bits. -/
def takeDigits (significand : Nat) : List Char → Nat × List Char
  | [] => (significand, [])
  | c :: rest =>
    let next := significand * 10 + digitValue c
    if isDigit c ∧ next < Nat.pow 2 64 then takeDigits next rest else (significand, c :: rest)

/-- The floating-point number with the given digits, if it is finite. -/
def floatOfParts (negative : Bool) (significand : Nat) (exponent : Int) : Except Fault Found :=
  match Binary64.ofDecimal? significand exponent with
  | some magnitude => .ok (.float negative magnitude)
  | none => .error .malformed

/-- The number whose exponent is to be read; the text starts behind the exponent mark. -/
def readExponent (negative : Bool) (significand : Nat) (exponent : Int) (text : List Char)
    : Except Fault Found :=
  let (down, text) : Bool × List Char :=
    match text with
    | '+' :: rest => (false, rest)
    | '-' :: rest => (true, rest)
    | _ => (false, text)
  match text with
  | [] => .error .truncated
  | c :: _ =>
    if isDigit c then
      let shift := (text.takeWhile isDigit).foldl (fun n c => n * 10 + digitValue c) 0
      floatOfParts negative significand (if down then exponent - shift else exponent + shift)
    else .error .malformed

/-- The number whose mantissa has been read, with an exponent if one follows. -/
def readScaled (negative : Bool) (significand : Nat) (exponent : Int) (text : List Char)
    : Except Fault Found :=
  match text with
  | 'e' :: rest => readExponent negative significand exponent rest
  | 'E' :: rest => readExponent negative significand exponent rest
  | _ => floatOfParts negative significand exponent

/-- The number whose fraction is to be read; the text starts behind the decimal point. -/
def readFraction (negative : Bool) (significand : Nat) (exponent : Int) (text : List Char)
    : Except Fault Found :=
  let (significand, rest) := takeDigits significand text
  let exponent := exponent - (text.length - rest.length : Nat)
  if startsWithDigit rest then
    readScaled negative significand exponent (rest.dropWhile isDigit)
  else if rest.length < text.length then readScaled negative significand exponent rest
  else if rest.isEmpty then .error .truncated
  else .error .malformed

/-- The number whose whole part has been read as an integer of 64 bits.
Without a fraction and an exponent it is an integer, unless it is a negative zero or below the
least integer of 64 bits.
-/
def readWhole (negative : Bool) (significand : Nat) (text : List Char) : Except Fault Found :=
  match text with
  | '.' :: rest => readFraction negative significand 0 rest
  | 'e' :: rest => readExponent negative significand 0 rest
  | 'E' :: rest => readExponent negative significand 0 rest
  | _ =>
    if negative then
      if significand = 0 ∨ Nat.pow 2 63 < significand then floatOfParts negative significand 0
      else .ok (.integer (-significand))
    else .ok (.integer significand)

/-- The value of a number; the text starts behind the minus sign, if there is one. -/
def readNumber (negative : Bool) (text : List Char) : Except Fault Found :=
  match text with
  | [] => .error .truncated
  | '0' :: rest =>
    if startsWithDigit rest then .error .malformed else readWhole negative 0 rest
  | c :: _ =>
    if isDigit c then
      let (significand, rest) := takeDigits 0 text
      if startsWithDigit rest then
        let exponent := (rest.takeWhile isDigit).length
        match rest.dropWhile isDigit with
        | '.' :: rest => readFraction negative significand exponent rest
        | rest => readScaled negative significand exponent rest
      else readWhole negative significand rest
    else .error .malformed

-----------------------------------------------------------------------------------------
-- Skipping
-----------------------------------------------------------------------------------------

def skipDigits (text : List Char) : Except Fault (List Char) :=
  if startsWithDigit text then .ok (text.dropWhile isDigit) else .error .malformed

/-- The text behind an exponent, if one stands here. -/
def skipExponent (text : List Char) : Except Fault (List Char) :=
  match text with
  | 'e' :: '+' :: rest | 'e' :: '-' :: rest | 'e' :: rest => skipDigits rest
  | 'E' :: '+' :: rest | 'E' :: '-' :: rest | 'E' :: rest => skipDigits rest
  | _ => .ok text

/-- The text behind a fraction, if one stands here. -/
def skipFraction (text : List Char) : Except Fault (List Char) :=
  match text with
  | '.' :: rest => skipDigits rest
  | _ => .ok text

/-- The text behind the whole part of a number. -/
def skipWhole (text : List Char) : Except Fault (List Char) :=
  match text with
  | '0' :: rest => if startsWithDigit rest then .error .malformed else .ok rest
  | _ => skipDigits text

/-- The text behind a number; the text starts behind the minus sign, if there is one. -/
def skipNumber (text : List Char) : Except Fault (List Char) := do
  let text ← skipWhole text
  let text ← skipFraction text
  skipExponent text

end PropertyLint.Json
