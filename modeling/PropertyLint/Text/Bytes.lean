/-! Lengths in UTF-8 bytes, the unit of every offset in this library. -/

namespace PropertyLint.Text

/-- The number of bytes that the characters take in UTF-8. -/
def byteLength : List Char → Nat
  | [] => 0
  | c :: rest => c.utf8Size + byteLength rest

def dropBytes : Nat → List Char → List Char
  | 0, text => text
  | _ + 1, [] => []
  | bytes + 1, c :: rest => dropBytes (bytes + 1 - c.utf8Size) rest

/-- The characters that start within the first bytes. -/
def takeBytes : Nat → List Char → List Char
  | 0, _ => []
  | _ + 1, [] => []
  | bytes + 1, c :: rest => c :: takeBytes (bytes + 1 - c.utf8Size) rest

/-- The characters from one offset up to another. -/
def sliceBytes (start stop : Nat) (text : List Char) : List Char :=
  takeBytes (stop - start) (dropBytes start text)

end PropertyLint.Text
