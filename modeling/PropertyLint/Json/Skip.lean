import PropertyLint.Json.Number

/-! Skipping a JSON value of any depth.

The brackets that are open are kept on a list, so that skipping takes one pass over the text
however deep the value nests.
-/

namespace PropertyLint.Json

/-- A bracket that is open. -/
inductive Bracket where
  | array
  | object
deriving DecidableEq, Repr

/-- Where skipping stands. -/
inductive SkipStage where
  | value
  /-- Behind an opening bracket. -/
  | opened
  /-- Behind a value. -/
  | closed
deriving DecidableEq, Repr

/-- The text behind a value without brackets. -/
def skipScalar (text : List Char) : Except Fault (List Char) :=
  match text with
  | [] => .error .truncated
  | 'n' :: rest => expectWord ['u', 'l', 'l'] rest
  | 't' :: rest => expectWord ['r', 'u', 'e'] rest
  | 'f' :: rest => expectWord ['a', 'l', 's', 'e'] rest
  | '"' :: rest => skipString rest
  | '-' :: rest => skipNumber rest
  | c :: _ => if isDigit c then skipNumber text else .error .malformed

/-- The text behind the key of a member and its colon. -/
def skipKey (text : List Char) : Except Fault (List Char) :=
  match skipBlank text with
  | '"' :: rest => (skipString rest).bind expectColon
  | _ :: _ => .error .malformed
  | [] => .error .truncated

-----------------------------------------------------------------------------------------
-- Each part takes characters off the text
-----------------------------------------------------------------------------------------

/-- Skipping digits takes at least one. -/
theorem skipDigits_length_lt {text rest : List Char} (read : skipDigits text = .ok rest)
    : rest.length < text.length := by
  unfold skipDigits at read
  split at read
  · rename_i digit
    cases read
    cases text with
    | nil => simp [startsWithDigit] at digit
    | cons c tail =>
      have shorter : (tail.dropWhile isDigit).length ≤ tail.length :=
        (List.dropWhile_suffix isDigit).length_le
      simp only [startsWithDigit] at digit
      simp only [List.dropWhile_cons, digit, if_true, List.length_cons]
      omega
  · cases read

/-- An exponent is taken off the text, if there is one. -/
theorem skipExponent_length_le {text rest : List Char} (read : skipExponent text = .ok rest)
    : rest.length ≤ text.length := by
  unfold skipExponent at read
  split at read
  case h_7 => cases read; exact Nat.le_refl _
  all_goals
    have shorter := skipDigits_length_lt read
    simp only [List.length_cons]
    omega

/-- A fraction is taken off the text, if there is one. -/
theorem skipFraction_length_le {text rest : List Char} (read : skipFraction text = .ok rest)
    : rest.length ≤ text.length := by
  unfold skipFraction at read
  split at read
  · have shorter := skipDigits_length_lt read
    simp only [List.length_cons]
    omega
  · cases read
    exact Nat.le_refl _

/-- The whole part of a number has at least one digit. -/
theorem skipWhole_length_lt {text rest : List Char} (read : skipWhole text = .ok rest)
    : rest.length < text.length := by
  unfold skipWhole at read
  split at read
  · split at read <;> cases read
    simp
  · exact skipDigits_length_lt read

/-- A number has at least one digit. -/
theorem skipNumber_length_lt {text rest : List Char} (read : skipNumber text = .ok rest)
    : rest.length < text.length := by
  unfold skipNumber at read
  cases whole : skipWhole text with
  | error fault => simp [whole, bind, Except.bind] at read
  | ok behind =>
    simp only [whole, bind, Except.bind] at read
    cases fraction : skipFraction behind with
    | error fault => simp [fraction] at read
    | ok behind' =>
      simp only [fraction] at read
      have first := skipWhole_length_lt whole
      have second := skipFraction_length_le fraction
      have third := skipExponent_length_le read
      omega

/-- A value without brackets has at least one character. -/
theorem skipScalar_length_lt {text rest : List Char} (read : skipScalar text = .ok rest)
    : rest.length < text.length := by
  unfold skipScalar at read
  split at read
  · cases read
  · exact Nat.lt_succ_of_le (expectWord_length_le read)
  · exact Nat.lt_succ_of_le (expectWord_length_le read)
  · exact Nat.lt_succ_of_le (expectWord_length_le read)
  · exact Nat.lt_succ_of_lt (skipString_length_lt read)
  · exact Nat.lt_succ_of_lt (skipNumber_length_lt read)
  · split at read
    · exact skipNumber_length_lt read
    · cases read

/-- The colon is taken off the text. -/
theorem expectColon_length_lt {text rest : List Char} (read : expectColon text = .ok rest)
    : rest.length < text.length := by
  have shorter := skipBlank_length_le text
  unfold expectColon at read
  split at read <;> cases read
  rename_i behind
  rw [behind, List.length_cons] at shorter
  exact shorter

/-- A key has at least its opening quote. -/
theorem skipKey_length_lt {text rest : List Char} (read : skipKey text = .ok rest)
    : rest.length < text.length := by
  have shorter := skipBlank_length_le text
  unfold skipKey at read
  split at read
  · rename_i tail behind
    rw [behind, List.length_cons] at shorter
    cases key : skipString tail with
    | error fault => simp [key, Except.bind] at read
    | ok middle =>
      simp only [key, Except.bind] at read
      have first := skipString_length_lt key
      have second := expectColon_length_lt read
      omega
  · cases read
  · cases read

-----------------------------------------------------------------------------------------
-- Values
-----------------------------------------------------------------------------------------

/-- The text behind the outermost of the open brackets, or behind one value when none is open. -/
def skipWithin (stage : SkipStage) (brackets : List Bracket) (text : List Char)
    : Except Fault (List Char) :=
  match stage, brackets with
  | .value, _ =>
    match _ : skipBlank text with
    | '[' :: rest => skipWithin .opened (.array :: brackets) rest
    | '\x7b' :: rest => skipWithin .opened (.object :: brackets) rest
    | start =>
      match _ : skipScalar start with
      | .error fault => .error fault
      | .ok rest => skipWithin .closed brackets rest
  | .opened, [] => .ok text
  | .opened, .array :: outer =>
    match _ : skipBlank text with
    | [] => .error .truncated
    | ']' :: rest => skipWithin .closed outer rest
    | _ :: _ => skipWithin .value brackets text
  | .opened, .object :: outer =>
    match _ : skipBlank text with
    | [] => .error .truncated
    | '\x7d' :: rest => skipWithin .closed outer rest
    | _ :: _ =>
      match _ : skipKey text with
      | .error fault => .error fault
      | .ok rest => skipWithin .value brackets rest
  | .closed, [] => .ok text
  | .closed, .array :: outer =>
    match _ : skipBlank text with
    | [] => .error .truncated
    | ',' :: rest => skipWithin .value brackets rest
    | ']' :: rest => skipWithin .closed outer rest
    | _ :: _ => .error .malformed
  | .closed, .object :: outer =>
    match _ : skipBlank text with
    | [] => .error .truncated
    | ',' :: rest =>
      match _ : skipKey rest with
      | .error fault => .error fault
      | .ok rest => skipWithin .value brackets rest
    | '\x7d' :: rest => skipWithin .closed outer rest
    | _ :: _ => .error .malformed
termination_by (text.length, if stage = .opened then 1 else 0)
decreasing_by
  all_goals
    have blank := skipBlank_length_le text
    try have behind := skipScalar_length_lt ‹skipScalar _ = _›
    try have behind := skipKey_length_lt ‹skipKey _ = _›
    simp_all [Prod.lex_def]
  all_goals omega

/-- The text behind one value of any kind. -/
def skipValue (text : List Char) : Except Fault (List Char) :=
  skipWithin .value [] text

end PropertyLint.Json
