import PropertyLint.TypeExpr.Basic
import PropertyLint.TypeExpr.Token

/-! Reading type expressions.

The grammar is

    type      := qualified type_args? '?'?
    qualified := identifier ('.' identifier)*
    type_args := '<' argument (',' argument)* '>'
    argument  := '*' | type

where no identifier is a keyword and argument lists nest at most 100 levels deep. The parser is a
pushdown automaton that takes one token at a time: its stage says what it has just read, and its
stack holds the argument lists that are still open. A token that no expression allows at its place
is refused there, so an error points at the first offending token.
-/

namespace PropertyLint

/-- The number of argument lists that may be open at once. -/
def maxTypeNesting : Nat := 100

/-- Keywords, which never name a type. -/
def reservedNames : List String :=
  ["null", "val", "var", "fun", "class", "object"]

/-- Why a text is not a type expression. -/
inductive TypeFault where
  /-- A type name must stand here; `found` is the token there, if any. -/
  | nameExpected (found : Option String)
  /-- An open argument list must end or go on here; `found` is the token there, if any. -/
  | closeExpected (found : Option String)
  /-- The name is a keyword. -/
  | reserved (name : String)
  /-- One argument list too many would be open. -/
  | tooDeep
  /-- The expression is complete, and more text follows. -/
  | trailing (found : String)
deriving DecidableEq, Repr

/-- The fault in words, without its place. -/
def TypeFault.detail : TypeFault → String
  | .nameExpected none => "Type name expected"
  | .nameExpected (some found) => s!"Type name expected, found '{found}'"
  | .closeExpected none => "'>' expected"
  | .closeExpected (some found) => s!"'>' expected, found '{found}'"
  | .reserved name => s!"'{name}' is a keyword and cannot name a type"
  | .tooDeep => s!"Type arguments nested deeper than {maxTypeNesting} levels"
  | .trailing found => s!"Unexpected '{found}'"

/-- A fault and the byte offset of the token that shows it. -/
structure TypeParseError where
  fault : TypeFault
  offset : Nat
deriving DecidableEq, Repr

/-- The fault in words, with its place. -/
def TypeParseError.message (error : TypeParseError) : String :=
  s!"{error.fault.detail} (at offset {error.offset})"

/-- What the parser has read since the innermost open bracket. -/
inductive TypeParser.Stage where
  /-- Nothing: a type, or in an argument list a star, comes next. -/
  | start
  /-- A name and a dot: another segment comes next. -/
  | dotted (name : List String)
  | named (name : List String)
  | applied (name : List String) (arguments : List TypeExpr)
  /-- A type that nothing can extend. -/
  | complete (expr : TypeExpr)

/-- An open argument list: the name before it and the arguments read so far. -/
structure TypeParser.Frame where
  name : List String
  arguments : List TypeExpr

/-- The parser between two tokens; the innermost open argument list comes first. -/
structure TypeParser where
  stage : TypeParser.Stage
  frames : List TypeParser.Frame

namespace TypeParser

/-- The parser before the first token. -/
def initial : TypeParser := ⟨.start, []⟩

/-- Takes a token where a name segment must stand. -/
def takeSegment (frames : List Frame) (name : List String) (token : Token)
    : Except TypeParseError TypeParser :=
  if token.kind ≠ .identifier then .error ⟨.nameExpected (some token.text), token.start⟩
  else if token.text ∈ reservedNames then .error ⟨.reserved token.text, token.start⟩
  else .ok ⟨.named (name ++ [token.text]), frames⟩

/-- Takes a token that cannot extend the type just read, which is therefore complete. -/
def takeAfter (frames : List Frame) (expr : TypeExpr) (token : Token)
    : Except TypeParseError TypeParser :=
  match frames with
  | [] => .error ⟨.trailing token.text, token.start⟩
  | frame :: outer =>
    let arguments := frame.arguments ++ [expr]
    match token.kind with
    | .comma => .ok ⟨.start, ⟨frame.name, arguments⟩ :: outer⟩
    | .greater => .ok ⟨.applied frame.name arguments, outer⟩
    | _ => .error ⟨.closeExpected (some token.text), token.start⟩

/-- Takes the next token. -/
def step (parser : TypeParser) (token : Token) : Except TypeParseError TypeParser :=
  let frames := parser.frames
  match parser.stage, token.kind with
  | .start, .asterisk =>
    if frames.isEmpty then takeSegment frames [] token else .ok ⟨.complete .star, frames⟩
  | .start, _ => takeSegment frames [] token
  | .dotted name, _ => takeSegment frames name token
  | .named name, .dot => .ok ⟨.dotted name, frames⟩
  | .named name, .less =>
    if maxTypeNesting ≤ frames.length then .error ⟨.tooDeep, token.start⟩
    else .ok ⟨.start, ⟨name, []⟩ :: frames⟩
  | .named name, .question => .ok ⟨.complete (.named name [] true), frames⟩
  | .named name, _ => takeAfter frames (.named name [] false) token
  | .applied name arguments, .question => .ok ⟨.complete (.named name arguments true), frames⟩
  | .applied name arguments, _ => takeAfter frames (.named name arguments false) token
  | .complete expr, _ => takeAfter frames expr token

/-- The type just read, if one could end here. -/
def Stage.expr? : Stage → Option TypeExpr
  | .start | .dotted _ => none
  | .named name => some (.named name [] false)
  | .applied name arguments => some (.named name arguments false)
  | .complete expr => some expr

/-- The result when the text ends at `offset`. -/
def finish (parser : TypeParser) (offset : Nat) : Except TypeParseError TypeExpr :=
  match parser.stage.expr?, parser.frames with
  | none, _ => .error ⟨.nameExpected none, offset⟩
  | some expr, [] => .ok expr
  | some _, _ :: _ => .error ⟨.closeExpected none, offset⟩

/-- Takes all tokens of a text that ends at `offset`. -/
def run (parser : TypeParser) (offset : Nat) : List Token → Except TypeParseError TypeExpr
  | [] => parser.finish offset
  | token :: rest =>
    match parser.step token with
    | .error error => .error error
    | .ok parser => parser.run offset rest

end TypeParser

/-- Reads a text as one whole type expression. -/
def TypeExpr.parse (text : String) : Except TypeParseError TypeExpr :=
  let (tokens, last) := (Scanner.ofText text).tokens
  TypeParser.initial.run last.offset tokens

end PropertyLint
