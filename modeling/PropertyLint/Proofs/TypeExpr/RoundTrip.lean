import PropertyLint.Proofs.TypeExpr.Acceptance
import PropertyLint.Proofs.TypeExpr.Scanning

/-! Spelling a type expression and reading the text again gives the same expression.
The grammar derives an expression from the tokens of its own spelling, as blanks only separate
arguments and nothing that follows a name continues it. So the parser accepts the spelling unless
its argument lists nest too deep, and no two expressions are spelled alike.
-/

namespace PropertyLint

open Text TypeGrammar TypeExpr
open TypeParser (Unreserved)

/-- A qualified name that a type can have: some segments, none of them a keyword. -/
structure IsTypeName (name : List String) : Prop where
  ne_nil : name ≠ []
  words : ∀ segment ∈ name, IsIdentifier segment
  free : ∀ segment ∈ name, segment ∉ reservedNames

instance (name : List String) : Decidable (IsTypeName name) :=
  decidable_of_iff
    (name ≠ []
      ∧ (∀ segment ∈ name, IsIdentifier segment)
      ∧ ∀ segment ∈ name, segment ∉ reservedNames)
    ⟨fun ⟨ne_nil, words, free⟩ => ⟨ne_nil, words, free⟩,
      fun ⟨ne_nil, words, free⟩ => ⟨ne_nil, words, free⟩⟩

namespace TypeExpr

mutual

/-- All names in the expression are names that a type can have. -/
def WellNamed : TypeExpr → Prop
  | .star => True
  | .named name arguments _ => IsTypeName name ∧ AllWellNamed arguments

def AllWellNamed : List TypeExpr → Prop
  | [] => True
  | expr :: rest => expr.WellNamed ∧ AllWellNamed rest

end

end TypeExpr

namespace Scanner

variable {c : Char} {rest : List Char} {name : List String} {arguments : List String}
  {nullable : Bool}

-----------------------------------------------------------------------------------------
-- Names and marks
-----------------------------------------------------------------------------------------

theorem unreserved_append {first second : List Token} (left : Unreserved first)
    (right : Unreserved second)
    : Unreserved (first ++ second) := by
  intro token member
  rcases List.mem_append.mp member with early | late
  · exact left token early
  · exact right token late

theorem ofChar_ne_identifier (c : Char) : TokenKind.ofChar c ≠ .identifier := by
  unfold TokenKind.ofChar
  split <;> simp

/-- A mark of the grammar is one token, and no name. -/
theorem scans_sign (inked : isWhiteSpace c = false) (other : isIdentifierStart c = false)
    : Scans [c] rest fun tokens =>
        ∃ token, tokens = [token] ∧ token.kind = .ofChar c ∧ Unreserved [token] := by
  refine (scans_mark inked other).mono ?_
  rintro _ ⟨token, rfl, kind⟩
  refine ⟨token, rfl, kind, fun same member word => ?_⟩
  obtain rfl := List.mem_singleton.mp member
  exact absurd (kind.symm.trans word) (ofChar_ne_identifier c)

/-- The spelling of a name is scanned into segments and dots, by induction on the segments. -/
theorem scans_name (named : IsTypeName name) (stops : Stops rest)
    : Scans (joined "." name).toList rest fun tokens =>
        Qualified tokens name ∧ Unreserved tokens := by
  obtain ⟨ne_nil, words, free⟩ := named
  have segment {word : String} (member : word ∈ name) {rest : List Char} (stops : Stops rest)
      : Scans word.toList rest fun tokens =>
          ∃ token,
            tokens = [token]
            ∧ token.kind = .identifier
            ∧ token.text = word
            ∧ Unreserved [token] := by
    refine (scans_word (words word member) stops).mono ?_
    rintro _ ⟨token, rfl, kind, text⟩
    refine ⟨token, rfl, kind, text, ?_⟩
    intro same inside _
    obtain rfl := List.mem_singleton.mp inside
    exact text ▸ free word member
  induction name with
  | nil => exact absurd rfl ne_nil
  | cons word name ih =>
      cases name with
      | nil =>
          refine (segment List.mem_cons_self stops).mono ?_
          rintro _ ⟨token, rfl, kind, rfl, unreserved⟩
          exact ⟨.single kind, unreserved⟩
      | cons next name =>
          have later := ih (by simp) (fun other member => words other (by simp [member]))
            (fun other member => free other (by simp [member])) fun member =>
              segment (List.mem_cons_of_mem _ member)
          have dot : Scans ['.'] ((joined "." (next :: name)).toList ++ rest) _ :=
            scans_sign (by decide) (by decide)
          have split : (joined "." (word :: next :: name)).toList
              = word.toList ++ (['.'] ++ (joined "." (next :: name)).toList) := by
            simp [joined]
          rw [split]
          refine ((segment List.mem_cons_self (stops_cons (by decide))).append
            (dot.append later)).mono ?_
          rintro _ ⟨_, _, rfl, ⟨token, rfl, kind, rfl, first⟩, _, tokens, rfl,
            ⟨dot, rfl, point, second⟩, qualified, last⟩
          exact ⟨.dotted kind point qualified,
            unreserved_append first (unreserved_append second last)⟩

/-- The marks behind a type: its arguments in brackets, and the question mark. -/
def bracketed (arguments : List String) : List Char :=
  if arguments.isEmpty then [] else ['<'] ++ ((joined ", " arguments).toList ++ ['>'])

def questioned (nullable : Bool) : List Char :=
  if nullable then ['?'] else []

theorem toList_spellType (name : String) (arguments : List String) (nullable : Bool)
    : (spellType name arguments nullable).toList
      = name.toList ++ (bracketed arguments ++ questioned nullable) := by
  cases arguments <;> cases nullable <;> simp [spellType, bracketed, questioned]

theorem Stops.questioned (stops : Stops rest) (nullable : Bool)
    : Stops (questioned nullable ++ rest) := by
  cases nullable with
  | false => exact stops
  | true => exact stops_cons (by decide)

theorem Stops.bracketed (stops : Stops rest) (arguments : List String)
    : Stops (bracketed arguments ++ rest) := by
  cases arguments with
  | nil => exact stops
  | cons first later => exact stops_cons (by decide)

theorem scans_questioned (nullable : Bool)
    : Scans (questioned nullable) rest fun tokens =>
        Marked tokens nullable ∧ Unreserved tokens := by
  cases nullable with
  | false => exact .nil ⟨.absent, by simp [Unreserved]⟩
  | true =>
      refine (scans_sign (by decide) (by decide)).mono ?_
      rintro _ ⟨token, rfl, question, free⟩
      exact ⟨.present question, free⟩

-----------------------------------------------------------------------------------------
-- Types and their arguments
-----------------------------------------------------------------------------------------

theorem bracketed_spellings {exprs : List TypeExpr} (applied : exprs ≠ [])
    : bracketed (spellings exprs)
      = ['<'] ++ ((joined ", " (spellings exprs)).toList ++ ['>']) := by
  cases exprs with
  | nil => exact absurd rfl applied
  | cons expr exprs => simp [bracketed, spellings]

theorem joined_spellings (expr : TypeExpr) {exprs : List TypeExpr} (applied : exprs ≠ [])
    : (joined ", " (spellings (expr :: exprs))).toList
      = expr.spelling.toList
        ++ ([','] ++ ([' '] ++ (joined ", " (spellings exprs)).toList)) := by
  cases exprs with
  | nil => exact absurd rfl applied
  | cons next exprs => simp [spellings, joined]

mutual

/-- The grammar derives a type from the tokens of its spelling, by recursion on the type. -/
theorem scans_spelling {expr : TypeExpr} {rest : List Char} (named : expr.WellNamed)
    (type : expr ≠ .star) (stops : Stops rest)
    : Scans expr.spelling.toList rest fun tokens => IsType tokens expr ∧ Unreserved tokens := by
  cases expr with
  | star => exact absurd rfl type
  | named name arguments nullable =>
      simp only [WellNamed] at named
      obtain ⟨named, inner⟩ := named
      have ended : Stops (bracketed (spellings arguments) ++ questioned nullable ++ rest) := by
        rw [List.append_assoc]
        exact (stops.questioned nullable).bracketed (spellings arguments)
      rw [spelling, toList_spellType]
      refine ((scans_name named ended).append
        ((scans_bracketed inner).append (scans_questioned nullable))).mono ?_
      rintro _ ⟨head, _, rfl, ⟨qualified, free⟩, args, mark, rfl, ⟨applied, inside⟩, marked, last⟩
      exact ⟨.named qualified applied marked,
        unreserved_append free (unreserved_append inside last)⟩
termination_by (sizeOf expr, 0)

theorem scans_bracketed {exprs : List TypeExpr} {rest : List Char} (named : AllWellNamed exprs)
    : Scans (bracketed (spellings exprs)) rest fun tokens =>
        TypeArgs tokens exprs ∧ Unreserved tokens := by
  by_cases applied : exprs = []
  · subst applied
    exact .nil ⟨.absent, by simp [Unreserved]⟩
  · rw [bracketed_spellings applied]
    refine ((scans_sign (by decide) (by decide)).append
      ((scans_arguments named applied).append (scans_sign (by decide) (by decide)))).mono ?_
    rintro _ ⟨_, _, rfl, ⟨opening, rfl, less, first⟩, list, _, rfl, ⟨listed, free⟩,
      closing, rfl, greater, last⟩
    exact ⟨.present less listed greater,
      unreserved_append first (unreserved_append free last)⟩
termination_by (sizeOf exprs, 1)

/-- Arguments are separated by commas, and the blanks behind these are skipped. -/
theorem scans_arguments {exprs : List TypeExpr} {rest : List Char} (named : AllWellNamed exprs)
    (applied : exprs ≠ [])
    : Scans (joined ", " (spellings exprs)).toList ('>' :: rest) fun tokens =>
        Arguments tokens exprs ∧ Unreserved tokens := by
  cases exprs with
  | nil => exact absurd rfl applied
  | cons expr exprs =>
      simp only [AllWellNamed] at named
      obtain ⟨first, others⟩ := named
      by_cases single : exprs = []
      · subst single
        refine (scans_argument first (stops_cons (by decide))).mono ?_
        rintro tokens ⟨argument, free⟩
        exact ⟨.last argument, free⟩
      · rw [joined_spellings expr single]
        refine ((scans_argument first (stops_cons (by decide))).append
          ((scans_sign (by decide) (by decide)).append
            ((scans_blank (by decide)).append (scans_arguments others single)))).mono ?_
        rintro _ ⟨head, _, rfl, ⟨argument, free⟩, _, _, rfl, ⟨comma, rfl, separator, middle⟩,
          _, list, rfl, rfl, listed, last⟩
        exact ⟨.more argument separator listed,
          unreserved_append free (unreserved_append middle last)⟩
termination_by (sizeOf exprs, 0)

theorem scans_argument {expr : TypeExpr} {rest : List Char} (named : expr.WellNamed)
    (stops : Stops rest)
    : Scans expr.spelling.toList rest fun tokens => Argument tokens expr ∧ Unreserved tokens := by
  by_cases star : expr = .star
  · subst star
    have split : TypeExpr.star.spelling.toList = ['*'] := rfl
    rw [split]
    refine (scans_sign (by decide) (by decide)).mono ?_
    rintro _ ⟨token, rfl, asterisk, free⟩
    exact ⟨.star asterisk, free⟩
  · refine (scans_spelling named star stops).mono ?_
    rintro tokens ⟨type, free⟩
    exact ⟨.type type, free⟩
termination_by (sizeOf expr, 1)

end

end Scanner

-----------------------------------------------------------------------------------------
-- Only names that a type can have are read
-----------------------------------------------------------------------------------------

namespace TypeGrammar

/-- Whatever is called a name among the tokens is one, and no keyword. -/
def Worded (tokens : List Token) : Prop :=
  ∀ token ∈ tokens,
    token.kind = .identifier → IsIdentifier token.text ∧ token.text ∉ reservedNames

variable {tokens rest : List Token} {name : List String}

theorem Worded.left (worded : Worded (tokens ++ rest)) : Worded tokens :=
  fun token member => worded token (List.mem_append_left rest member)

theorem Worded.right (worded : Worded (tokens ++ rest)) : Worded rest :=
  fun token member => worded token (List.mem_append_right tokens member)

theorem Worded.tail {token : Token} (worded : Worded (token :: rest)) : Worded rest :=
  fun other member => worded other (List.mem_cons_of_mem token member)

theorem Qualified.isTypeName (qualified : Qualified tokens name) (worded : Worded tokens)
    : IsTypeName name := by
  induction qualified with
  | single word =>
      obtain ⟨identifier, free⟩ := worded _ List.mem_cons_self word
      exact ⟨by simp, by simpa using identifier, by simpa using free⟩
  | dotted word _ _ ih =>
      obtain ⟨identifier, free⟩ := worded _ List.mem_cons_self word
      have later := ih worded.tail.tail
      exact ⟨by simp, List.forall_mem_cons.mpr ⟨identifier, later.words⟩,
        List.forall_mem_cons.mpr ⟨free, later.free⟩⟩

mutual

/-- What the grammar derives has the names that stand in the tokens, by recursion on the type. -/
theorem IsType.wellNamed {tokens : List Token} {expr : TypeExpr} (type : IsType tokens expr)
    (worded : Worded tokens)
    : expr.WellNamed := by
  cases type with
  | named qualified applied marked =>
      rw [WellNamed]
      exact ⟨qualified.isTypeName worded.left, applied.wellNamed worded.right.left⟩
termination_by (sizeOf expr, 0)

theorem TypeArgs.wellNamed {tokens : List Token} {exprs : List TypeExpr}
    (applied : TypeArgs tokens exprs) (worded : Worded tokens)
    : AllWellNamed exprs := by
  cases applied with
  | absent => trivial
  | present _ listed _ => exact listed.wellNamed worded.tail.left
termination_by (sizeOf exprs, 1)

theorem Arguments.wellNamed {tokens : List Token} {exprs : List TypeExpr}
    (listed : Arguments tokens exprs) (worded : Worded tokens)
    : AllWellNamed exprs := by
  cases listed with
  | last argument => exact ⟨argument.wellNamed worded, trivial⟩
  | more argument _ listed =>
      exact ⟨argument.wellNamed worded.left, listed.wellNamed worded.right.tail⟩
termination_by (sizeOf exprs, 0)

theorem Argument.wellNamed {tokens : List Token} {expr : TypeExpr}
    (argument : Argument tokens expr) (worded : Worded tokens)
    : expr.WellNamed := by
  cases argument with
  | star _ => trivial
  | type type => exact type.wellNamed worded
termination_by (sizeOf expr, 1)

end

theorem IsType.ne_star {expr : TypeExpr} (type : IsType tokens expr) : expr ≠ .star := by
  cases type
  simp

end TypeGrammar

-----------------------------------------------------------------------------------------
-- Reading what has been spelled
-----------------------------------------------------------------------------------------

namespace TypeExpr

variable {expr other : TypeExpr} {text : String}

theorem derives_of_parse (read : parse text = .ok expr)
    : IsType (Scanner.ofText text).tokens.1 expr
      ∧ Unreserved (Scanner.ofText text).tokens.1
      ∧ expr.nesting ≤ maxTypeNesting := by
  obtain ⟨last, takes, finished⟩ := TypeParser.run_eq_ok_iff.mp read
  obtain ⟨ended, closed⟩ := TypeParser.finish_eq_ok_iff.mp finished
  exact takes.derives ended closed

theorem parse_of_derives (type : IsType (Scanner.ofText text).tokens.1 expr)
    (unreserved : Unreserved (Scanner.ofText text).tokens.1)
    (shallow : expr.nesting ≤ maxTypeNesting)
    : parse text = .ok expr := by
  obtain ⟨stage, takes, ended⟩ := TypeParser.type_takes [] type unreserved (by simpa using shallow)
  exact TypeParser.run_eq_ok_iff.mpr
    ⟨⟨stage, []⟩, takes, TypeParser.finish_eq_ok_iff.mpr ⟨ended, rfl⟩⟩

/-- What is read is a type, and its names are names that a type can have. -/
theorem wellNamed_of_parse (read : parse text = .ok expr) : expr.WellNamed ∧ expr ≠ .star := by
  obtain ⟨type, unreserved, _⟩ := derives_of_parse read
  exact ⟨type.wellNamed fun token member word =>
    ⟨Scanner.isIdentifier_of_mem_tokens member word, unreserved token member word⟩, type.ne_star⟩

/-- The grammar derives a type from the tokens of its own spelling. -/
theorem WellNamed.derives (named : expr.WellNamed) (type : expr ≠ .star)
    : IsType (Scanner.ofText expr.spelling).tokens.1 expr
      ∧ Unreserved (Scanner.ofText expr.spelling).tokens.1 :=
  (Scanner.scans_spelling named type Scanner.stops_nil).whole

/-- A spelling within the limit is read as the type it was made from. -/
theorem WellNamed.parse_spelling (named : expr.WellNamed) (type : expr ≠ .star)
    (shallow : expr.nesting ≤ maxTypeNesting)
    : parse expr.spelling = .ok expr := by
  obtain ⟨derived, unreserved⟩ := named.derives type
  exact parse_of_derives derived unreserved shallow

/-- A spelling is read as nothing but the type it was made from. -/
theorem WellNamed.eq_of_parse_spelling (named : expr.WellNamed) (type : expr ≠ .star)
    (read : parse expr.spelling = .ok other)
    : other = expr :=
  (derives_of_parse read).1.unique_whole (named.derives type).1

/-- Exactly the spellings within the limit are read. -/
theorem WellNamed.parse_spelling_isOk_iff (named : expr.WellNamed) (type : expr ≠ .star)
    : (∃ read, parse expr.spelling = .ok read) ↔ expr.nesting ≤ maxTypeNesting := by
  constructor
  · rintro ⟨read, accepted⟩
    obtain rfl := named.eq_of_parse_spelling type accepted
    exact (derives_of_parse accepted).2.2
  · exact fun shallow => ⟨expr, named.parse_spelling type shallow⟩

/-- No two types are spelled alike. -/
theorem WellNamed.eq_of_spelling (named : expr.WellNamed) (type : expr ≠ .star)
    (otherNamed : other.WellNamed) (otherType : other ≠ .star)
    (same : expr.spelling = other.spelling)
    : expr = other := by
  have derived := (named.derives type).1
  rw [same] at derived
  exact derived.unique_whole (otherNamed.derives otherType).1

-----------------------------------------------------------------------------------------
-- The types that can be read
-----------------------------------------------------------------------------------------

/-- What a type must be like for a text to be read as it. A star is an argument of another type, the
segments of all names are identifiers other than keywords, and the argument lists nest within the
limit.
-/
structure Readable (expr : TypeExpr) : Prop where
  type : expr ≠ .star
  named : expr.WellNamed
  shallow : expr.nesting ≤ maxTypeNesting

theorem Readable.parse_spelling (readable : expr.Readable) : parse expr.spelling = .ok expr :=
  readable.named.parse_spelling readable.type readable.shallow

theorem readable_of_parse (read : parse text = .ok expr) : expr.Readable where
  type := (wellNamed_of_parse read).2
  named := (wellNamed_of_parse read).1
  shallow := (derives_of_parse read).2.2

/-- Spelling and reading are inverse on the readable types: each of them, and no other type, is read
from its own spelling. No text is read as any other type, so that what has been read from a text is
read again from its spelling, however the text was spaced.
-/
theorem spelling_and_reading_inverse (expr : TypeExpr)
    : (expr.Readable ↔ parse expr.spelling = .ok expr)
      ∧ (expr.Readable ↔ ∃ text, parse text = .ok expr)
      ∧ ∀ text, parse text = .ok expr → parse expr.spelling = .ok expr := by
  refine ⟨⟨Readable.parse_spelling, readable_of_parse⟩, ⟨?_, ?_⟩, ?_⟩
  · intro readable
    exact ⟨expr.spelling, readable.parse_spelling⟩
  · rintro ⟨text, read⟩
    exact readable_of_parse read
  · intro text read
    exact (readable_of_parse read).parse_spelling

end TypeExpr

end PropertyLint
