import PropertyLint.Text.Joined
import PropertyLint.Text.Printable

/-! Quoted text, as messages and journal entries show it.

A quote and a backslash are escaped, the common controls have letters of their own, and any
other character that would not show is written by its code point in hexadecimal.
-/

namespace PropertyLint.Text

/-- The characters that stand for `c` between double quotes. -/
def quotedChar (c : Char) : String :=
  match c with
  | '\x00' => "\\0"
  | '\t' => "\\t"
  | '\r' => "\\r"
  | '\n' => "\\n"
  | '\\' => "\\\\"
  | '"' => "\\\""
  | _ =>
    if isPrintable c then c.toString
    else "\\u\x7b" ++ String.ofList (Nat.toDigits 16 c.toNat) ++ "\x7d"

/-- The text between double quotes, each character written by `quotedChar`. -/
def quoted (text : String) : String :=
  "\"" ++ String.join (text.toList.map quotedChar) ++ "\""

/-- The quoted texts in square brackets. -/
def quotedList (texts : List String) : String :=
  "[" ++ joined ", " (texts.map quoted) ++ "]"

end PropertyLint.Text
