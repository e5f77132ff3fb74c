import PropertyLint.Number.Shortest
import PropertyLint.Text.Quoted

/-! What can be wrong with a JSON text that is read for a purpose.

The text may break the rules of JSON, it may end too early, or it may be fine as JSON and still
not fit what is expected at some place.
-/

namespace PropertyLint.Json

open Number (Binary64)
open Text (quoted joined)

/-- A value that was found where another was expected. -/
inductive Found where
  | null
  | boolean (value : Bool)
  | integer (value : Int)
  /-- A number with a fraction or an exponent, or one too large for an integer. -/
  | float (negative : Bool) (magnitude : Binary64)
  | string (value : String)
  | sequence
  | map
deriving Repr

/-- The found value in words. -/
def Found.text : Found → String
  | .null => "null"
  | .boolean value => s!"boolean `{value}`"
  | .integer value => s!"integer `{value}`"
  | .float negative magnitude =>
    let sign := if negative then "-" else ""
    s!"floating point `{sign}{magnitude.shortest.text}`"
  | .string value => "string " ++ quoted value
  | .sequence => "sequence"
  | .map => "map"

/-- How a value does not fit its place. -/
inductive Mismatch where
  /-- Another kind of value was expected. -/
  | invalidType (found : Found) (expected : String)
  /-- The object has a member that is not known. -/
  | unknownField (name : String) (expected : List String)
  /-- The object has a member twice. -/
  | duplicateField (name : String)
  /-- The name is not one of those to choose from. -/
  | unknownVariant (name : String) (expected : List String)
deriving Repr

/-- The names to choose from, in words. -/
def choice (names : List String) : String :=
  match names.map fun name => "`" ++ name ++ "`" with
  | [] => "nothing"
  | [only] => only
  | [first, second] => first ++ " or " ++ second
  | several => "one of " ++ joined ", " several

/-- The mismatch in words. -/
def Mismatch.detail : Mismatch → String
  | .invalidType found expected => s!"invalid type: {found.text}, expected {expected}"
  | .unknownField name expected => s!"unknown field `{name}`, expected {choice expected}"
  | .duplicateField name => s!"duplicate field `{name}`"
  | .unknownVariant name expected => s!"unknown variant `{name}`, expected {choice expected}"

/-- Why reading stopped. -/
inductive Fault where
  /-- The text breaks the rules of JSON. -/
  | malformed
  /-- The text ends too early. -/
  | truncated
  /-- A value does not fit its place. -/
  | mismatch (cause : Mismatch)
deriving Repr

end PropertyLint.Json
