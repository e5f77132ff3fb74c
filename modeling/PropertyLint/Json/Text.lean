import PropertyLint.Json.Fault
import PropertyLint.Text.Bytes

/-! The words of JSON: blanks, literals and strings.

A reader takes the text that is left and gives back what remains of it. Reading a string unescapes
it and refuses surrogates that are not paired; skipping one only finds its end.
-/

namespace PropertyLint.Json

open Text (byteLength)

/-- The four blank characters of JSON. -/
def isBlank (c : Char) : Bool :=
  c = ' ' || c = '\t' || c = '\n' || c = '\r'

def skipBlank (text : List Char) : List Char :=
  text.dropWhile isBlank

/-- The text behind a given word, which must stand at its start. -/
def expectWord : List Char → List Char → Except Fault (List Char)
  | [], text => .ok text
  | _ :: _, [] => .error .truncated
  | expected :: word, c :: rest =>
    if c = expected then expectWord word rest else .error .malformed

def expectColon (text : List Char) : Except Fault (List Char) :=
  match skipBlank text with
  | ':' :: rest => .ok rest
  | _ :: _ => .error .malformed
  | [] => .error .truncated

/-- The value of a hexadecimal digit. -/
def hexValue? (c : Char) : Option Nat :=
  if '0' ≤ c ∧ c ≤ '9' then some (c.toNat - '0'.toNat)
  else if 'a' ≤ c ∧ c ≤ 'f' then some (c.toNat - 'a'.toNat + 10)
  else if 'A' ≤ c ∧ c ≤ 'F' then some (c.toNat - 'A'.toNat + 10)
  else none

/-- The number that four hexadecimal digits at the start of the text write.
The text is truncated when fewer than four bytes are left, whatever they are.
-/
def readHex (text : List Char) : Except Fault (Nat × List Char) :=
  match text with
  | a :: b :: c :: d :: rest =>
    match hexValue? a, hexValue? b, hexValue? c, hexValue? d with
    | some a, some b, some c, some d => .ok (((a * 16 + b) * 16 + c) * 16 + d, rest)
    | _, _, _, _ => .error .malformed
  | short => if byteLength short < 4 then .error .truncated else .error .malformed

/-- The character that a letter behind a backslash stands for. -/
def escapedChar? : Char → Option Char
  | '"' => some '"'
  | '\\' => some '\\'
  | '/' => some '/'
  | 'b' => some '\x08'
  | 'f' => some '\x0c'
  | 'n' => some '\n'
  | 'r' => some '\r'
  | 't' => some '\t'
  | _ => none

/-- The character that `\u` and what follows it write. A leading surrogate must be followed at once
by the escape of a trailing one.
-/
def readUnicodeEscape (text : List Char) : Except Fault (Char × List Char) := do
  let (unit, rest) ← readHex text
  if 0xDC00 ≤ unit ∧ unit ≤ 0xDFFF then .error .malformed
  else if 0xD800 ≤ unit ∧ unit ≤ 0xDBFF then
    let rest ← expectWord ['\\', 'u'] rest
    let (low, rest) ← readHex rest
    if 0xDC00 ≤ low ∧ low ≤ 0xDFFF then
      .ok (Char.ofNat ((unit - 0xD800) * 0x400 + (low - 0xDC00) + 0x10000), rest)
    else .error .malformed
  else .ok (Char.ofNat unit, rest)

/-- The character that an escape writes; the text starts behind the backslash. -/
def readEscape (text : List Char) : Except Fault (Char × List Char) :=
  match text with
  | [] => .error .truncated
  | 'u' :: rest => readUnicodeEscape rest
  | c :: rest =>
    match escapedChar? c with
    | some plain => .ok (plain, rest)
    | none => .error .malformed

/-- The text behind an escape; the text starts behind the backslash. -/
def skipEscape (text : List Char) : Except Fault (List Char) :=
  match text with
  | [] => .error .truncated
  | 'u' :: rest => (readHex rest).map Prod.snd
  | c :: rest => if (escapedChar? c).isSome then .ok rest else .error .malformed

-----------------------------------------------------------------------------------------
-- Each word takes characters off the text
-----------------------------------------------------------------------------------------

/-- Skipping blanks never lengthens the text. -/
theorem skipBlank_length_le (text : List Char) : (skipBlank text).length ≤ text.length :=
  (List.dropWhile_suffix isBlank).length_le

/-- What is left behind a word is part of the text. -/
theorem expectWord_length_le {word text rest : List Char}
    (read : expectWord word text = .ok rest) : rest.length ≤ text.length := by
  fun_induction expectWord word text with
  | case1 => cases read; exact Nat.le_refl _
  | case2 => cases read
  | case3 word c rest' ih => exact Nat.le_succ_of_le (ih read)
  | case4 => cases read

/-- Four digits are taken off the text. -/
theorem readHex_length_lt {text rest : List Char} {unit : Nat}
    (read : readHex text = .ok (unit, rest)) : rest.length < text.length := by
  unfold readHex at read
  split at read
  · split at read
    · cases read
      simp only [List.length_cons]
      omega
    · cases read
  · split at read <;> cases read

/-- One escape, or the two of a surrogate pair, are taken off the text. -/
theorem readUnicodeEscape_length_lt {text rest : List Char} {c : Char}
    (read : readUnicodeEscape text = .ok (c, rest)) : rest.length < text.length := by
  unfold readUnicodeEscape at read
  cases first : readHex text with
  | error fault => simp [first, bind, Except.bind] at read
  | ok result =>
    have shorter := readHex_length_lt first
    simp only [first, bind, Except.bind] at read
    split at read
    · cases read
    · split at read
      · cases word : expectWord ['\\', 'u'] result.2 with
        | error fault => simp [word] at read
        | ok middle =>
          have kept := expectWord_length_le word
          simp only [word] at read
          cases second : readHex middle with
          | error fault => simp [second] at read
          | ok final =>
            have shorter' := readHex_length_lt second
            simp only [second] at read
            split at read
            · simp only [Except.ok.injEq, Prod.mk.injEq] at read
              obtain ⟨_, rfl⟩ := read
              omega
            · cases read
      · simp only [Except.ok.injEq, Prod.mk.injEq] at read
        obtain ⟨_, rfl⟩ := read
        exact shorter

/-- Reading an escape takes at least the character behind the backslash. -/
theorem readEscape_length_lt {text rest : List Char} {c : Char}
    (read : readEscape text = .ok (c, rest)) : rest.length < text.length := by
  unfold readEscape at read
  split at read
  · cases read
  · have shorter := readUnicodeEscape_length_lt read
    simp only [List.length_cons]
    omega
  · split at read <;> cases read
    simp

/-- Skipping an escape takes at least the character behind the backslash. -/
theorem skipEscape_length_lt {text rest : List Char}
    (read : skipEscape text = .ok rest) : rest.length < text.length := by
  unfold skipEscape at read
  split at read
  · cases read
  · rename_i tail
    cases hex : readHex tail with
    | error fault => simp [hex, Except.map] at read
    | ok result =>
      have shorter := readHex_length_lt hex
      simp only [hex, Except.map, Except.ok.injEq] at read
      subst read
      simp only [List.length_cons]
      omega
  · split at read <;> cases read
    simp

-----------------------------------------------------------------------------------------
-- Strings
-----------------------------------------------------------------------------------------

/-- The content of a string, and the text behind its closing quote; the text starts behind the
opening one. A control character must be escaped.
-/
def readChars (text : List Char) : Except Fault (List Char × List Char) :=
  match text with
  | [] => .error .truncated
  | '"' :: rest => .ok ([], rest)
  | '\\' :: rest =>
    match _ : readEscape rest with
    | .error fault => .error fault
    | .ok (c, rest) => (readChars rest).map fun (content, rest) => (c :: content, rest)
  | c :: rest =>
    if c.toNat < 0x20 then .error .malformed
    else (readChars rest).map fun (content, rest) => (c :: content, rest)
termination_by text.length
decreasing_by
  · have := readEscape_length_lt ‹_›
    simp only [List.length_cons]
    omega
  · simp

def readString (text : List Char) : Except Fault (String × List Char) :=
  (readChars text).map fun (content, rest) => (String.ofList content, rest)

/-- The text behind the closing quote of a string; the text starts behind the opening one. -/
def skipString (text : List Char) : Except Fault (List Char) :=
  match text with
  | [] => .error .truncated
  | '"' :: rest => .ok rest
  | '\\' :: rest =>
    match _ : skipEscape rest with
    | .error fault => .error fault
    | .ok rest => skipString rest
  | c :: rest => if c.toNat < 0x20 then .error .malformed else skipString rest
termination_by text.length
decreasing_by
  · have := skipEscape_length_lt ‹_›
    simp only [List.length_cons]
    omega
  · simp

/-- Skipping a string takes at least its closing quote, by induction along the string. -/
theorem skipString_length_lt {text rest : List Char} (read : skipString text = .ok rest)
    : rest.length < text.length := by
  fun_induction skipString text with
  | case1 => cases read
  | case2 => cases read; simp
  | case3 => cases read
  | case4 tail rest' skipped ih =>
    have first := skipEscape_length_lt skipped
    have second := ih read
    simp only [List.length_cons]
    omega
  | case5 => cases read
  | case6 c tail _ _ _ ih =>
    have shorter := ih read
    simp only [List.length_cons]
    omega

end PropertyLint.Json
