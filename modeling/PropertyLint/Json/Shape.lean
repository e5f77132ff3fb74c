import PropertyLint.Json.Skip

/-! Reading JSON values of an expected shape.

Readers go through the text from left to right and stop at the first fault, so a value that does
not fit is reported before any fault behind it.
-/

namespace PropertyLint.Json

/-- The fault at a value that is not of the expected kind. A value that is not even written
correctly is faulty for that; of an array or object only the opening bracket is looked at.
-/
def unexpected (expected : String) (text : List Char) : Fault :=
  let mismatch (found : Found) : Fault := .mismatch (.invalidType found expected)
  let literal (word : List Char) (found : Found) (rest : List Char) : Fault :=
    match expectWord word rest with
    | .error fault => fault
    | .ok _ => mismatch found
  let number (negative : Bool) (digits : List Char) : Fault :=
    match readNumber negative digits with
    | .error fault => fault
    | .ok found => mismatch found
  match text with
  | 'n' :: rest => literal ['u', 'l', 'l'] .null rest
  | 't' :: rest => literal ['r', 'u', 'e'] (.boolean true) rest
  | 'f' :: rest => literal ['a', 'l', 's', 'e'] (.boolean false) rest
  | '-' :: rest => number true rest
  | '"' :: rest =>
    match readString rest with
    | .error fault => fault
    | .ok (value, _) => mismatch (.string value)
  | '[' :: _ => mismatch .sequence
  | '\x7b' :: _ => mismatch .map
  | c :: _ => if isDigit c then number false text else .malformed
  | [] => .malformed

def readBool (text : List Char) : Except Fault (Bool × List Char) :=
  match skipBlank text with
  | [] => .error .truncated
  | 't' :: rest => (expectWord ['r', 'u', 'e'] rest).map (true, ·)
  | 'f' :: rest => (expectWord ['a', 'l', 's', 'e'] rest).map (false, ·)
  | start => .error (unexpected "a boolean" start)

def readNull (text : List Char) : Except Fault (List Char) :=
  match skipBlank text with
  | [] => .error .truncated
  | 'n' :: rest => expectWord ['u', 'l', 'l'] rest
  | start => .error (unexpected "unit" start)

/-- Reads a string that must be one of the given names, and gives the value it names. The name may
stand as the key of an object, where only a string is correct JSON: a number or a word in its place
is a fault of the text rather than a value of the wrong kind.
-/
def readName (names : List (String × α)) (text : List Char) : Except Fault (α × List Char) :=
  match skipBlank text with
  | [] => .error .truncated
  | '"' :: rest => do
    let (name, rest) ← readString rest
    match names.lookup name with
    | some value => .ok (value, rest)
    | none => .error (.mismatch (.unknownVariant name (names.map Prod.fst)))
  | _ :: _ => .error .malformed

/-- Reads a choice: one of the given names as a string, or as the only key of an object whose
member is `null`.
-/
def readChoice (names : List (String × α)) (text : List Char) : Except Fault (α × List Char) :=
  match skipBlank text with
  | [] => .error .truncated
  | '"' :: _ => readName names text
  | '\x7b' :: rest => do
    let (value, rest) ← readName names rest
    let rest ← expectColon rest
    let rest ← readNull rest
    match skipBlank rest with
    | '\x7d' :: rest => .ok (value, rest)
    | _ :: _ => .error .malformed
    | [] => .error .truncated
  | _ :: _ => .error .malformed

/-- What follows in an object. -/
inductive Member where
  /-- A key; the text starts behind its opening quote. -/
  | key (text : List Char)
  /-- The end of the object; the text starts behind the bracket. -/
  | close (text : List Char)

/-- Finds the next key of an object or its end. Members after the first stand behind a comma. -/
def nextMember (first : Bool) (text : List Char) : Except Fault Member :=
  match skipBlank text with
  | [] => .error .truncated
  | '\x7d' :: rest => .ok (.close rest)
  | c :: rest =>
    if first then
      if c = '"' then .ok (.key rest) else .error .malformed
    else if c = ',' then
      match skipBlank rest with
      | [] => .error .truncated
      | '"' :: rest => .ok (.key rest)
      | _ :: _ => .error .malformed
    else .error .malformed

/-- Finds the next element of an array, if there is one; the text of an element follows. Elements
after the first stand behind a comma. At the closing bracket there is none.
-/
def nextElement (first : Bool) (text : List Char) : Except Fault (Option (List Char)) :=
  match skipBlank text with
  | [] => .error .truncated
  | ']' :: _ => .ok none
  | c :: rest =>
    if first then .ok (some (c :: rest))
    else if c = ',' then
      match skipBlank rest with
      | [] => .error .truncated
      | ']' :: _ => .error .malformed
      | start => .ok (some start)
    else .error .malformed

/-- Reads the next element of an array, or takes a default when the array ends here. The flag tells
whether the element would be the first, and then whether the next one would be.
-/
def readElement (read : List Char → Except Fault (α × List Char)) (default : α)
    (state : Bool × List Char) : Except Fault (α × Bool × List Char) := do
  match ← nextElement state.1 state.2 with
  | none => .ok (default, state)
  | some start =>
    let (value, rest) ← read start
    .ok (value, false, rest)

/-- The text behind the closing bracket of an array, which must follow. -/
def closeArray (text : List Char) : Except Fault (List Char) :=
  match skipBlank text with
  | ']' :: rest => .ok rest
  | _ :: _ => .error .malformed
  | [] => .error .truncated

end PropertyLint.Json
