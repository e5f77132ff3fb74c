import PropertyLint.Json.Number
import PropertyLint.Pattern.Reader

/-! What a directive asks of a field: that there is one, or that its value matches a pattern. -/

namespace PropertyLint

/-- A field by its name, with a value that may be asked for. -/
structure FieldQuery where
  name : String
  value : Option String := none
deriving DecidableEq, Repr

namespace FieldQuery

/-- The text without a sign at its start. -/
def withoutSign : List Char → List Char
  | '+' :: rest | '-' :: rest => rest
  | text => text

/-- Whether the text is empty or an exponent with at least one digit. -/
def isExponent : List Char → Bool
  | [] => true
  | mark :: rest =>
    (mark = 'e' || mark = 'E') && !(withoutSign rest).isEmpty && (withoutSign rest).all Json.isDigit

/-- Whether the text is a decimal number without a sign. Digits may lack on one side of the point.
-/
def isDecimal (text : List Char) : Bool :=
  let whole := text.takeWhile Json.isDigit
  match text.drop whole.length with
  | '.' :: rest =>
    let fraction := rest.takeWhile Json.isDigit
    !(whole.isEmpty && fraction.isEmpty) && isExponent (rest.drop fraction.length)
  | rest => !whole.isEmpty && isExponent rest

/-- Whether a value stands for a truth value or a number, which no text is equal to. -/
def isScalar (value : String) : Bool :=
  let word := withoutSign value.toList
  value = "true" || value = "false" || isDecimal word ||
    ["inf", "infinity", "nan"].contains (String.ofList (word.map Char.toLower))

/-- Reads a query: a name, or a name and a value. What stands behind a second equals sign does not
count.
-/
def parse? (text : String) : Option FieldQuery :=
  match text.splitOn "=" with
  | name :: value :: _ =>
    if isScalar value || (Pattern.parse? value).isSome then some { name, value := some value }
    else none
  | _ => if text = "" then none else some { name := text }

/-- Whether a text is a value that is asked for. -/
def admits (query : FieldQuery) (text : String) : Bool :=
  query.value.all fun value =>
    !isScalar value && (Pattern.parse? value).any fun pattern => pattern.matchesEnd text

end FieldQuery

end PropertyLint
