import PropertyLint.Proofs.TypeExpr.Acceptance
import PropertyLint.Proofs.TypeExpr.TokenPlaces

/-! An error points at the first token that no type can have at its place.
The parser takes a token sequence exactly when some text that is read as a type starts with it: open
lists can always be closed, so whatever has been taken can be completed without going deeper. So the
first token that is refused is the first one that rules out a type, and the end of the text shows an
error only when more tokens would make a type.
-/

namespace PropertyLint

open Text

-----------------------------------------------------------------------------------------
-- Tokens apart from their places
-----------------------------------------------------------------------------------------

/-- The kind and the text of a token, which are all that a type depends on. -/
def Token.lexeme (token : Token) : TokenKind × String :=
  (token.kind, token.text)

/-- The tokens of a text, apart from their places. -/
def lexemes (text : String) : List (TokenKind × String) :=
  (Scanner.ofText text).tokens.1.map Token.lexeme

/-- Some text that is read as a type starts with the tokens. -/
def Viable (tokens : List Token) : Prop :=
  ∃ text expr, TypeExpr.parse text = .ok expr ∧ tokens.map Token.lexeme <+: lexemes text

/-- Some text that is read as a type starts with the tokens and has further ones. -/
def Extensible (tokens : List Token) : Prop :=
  ∃ text expr more,
    TypeExpr.parse text = .ok expr
    ∧ lexemes text = tokens.map Token.lexeme ++ more
    ∧ more ≠ []

namespace TypeParser

variable {parser between next last : TypeParser} {token other : Token}
  {tokens others later : List Token} {frames : List Frame} {stage : Stage} {expr : TypeExpr}
  {name : List String} {error : TypeParseError} {offset : Nat}

/-- The same error at another place. -/
def movedTo {α : Type} (start : Nat) : Except TypeParseError α → Except TypeParseError α :=
  Except.mapError fun error => { error with offset := start }

theorem takeSegment_moved (start stop : Nat)
    : takeSegment frames name { token with start, stop }
      = movedTo start (takeSegment frames name token) := by
  unfold takeSegment
  dsimp only
  split
  · rfl
  · split <;> rfl

theorem takeAfter_moved (start stop : Nat)
    : takeAfter frames expr { token with start, stop }
      = movedTo start (takeAfter frames expr token) := by
  cases frames with
  | nil => rfl
  | cons frame outer =>
      unfold takeAfter
      dsimp only
      split <;> rfl

/-- The place of a token decides nothing but the place of the error, if there is one. -/
theorem step_moved (start stop : Nat)
    : parser.step { token with start, stop } = movedTo start (parser.step token) := by
  unfold step
  dsimp only
  split
  · split
    · exact takeSegment_moved start stop
    · rfl
  · exact takeSegment_moved start stop
  · exact takeSegment_moved start stop
  · rfl
  · split <;> rfl
  · rfl
  · exact takeAfter_moved start stop
  · rfl
  · exact takeAfter_moved start stop
  · exact takeAfter_moved start stop

theorem step_of_lexeme (same : token.lexeme = other.lexeme) (taken : parser.step token = .ok next)
    : parser.step other = .ok next := by
  obtain ⟨kind, text⟩ := Prod.mk.inj same
  have moved : other = { token with start := other.start, stop := other.stop } := by
    rw [kind, text]
  rw [moved, step_moved, taken]
  rfl

/-- An error shows where the refused token starts. -/
theorem step_error_offset (refused : parser.step token = .error error)
    : error.offset = token.start := by
  have moved : parser.step token = movedTo token.start (parser.step token) :=
    step_moved token.start token.stop
  rw [refused] at moved
  exact congrArg TypeParseError.offset (Except.error.inj moved)

/-- A sequence of tokens with the same kinds and texts is taken alike, by induction on the steps. -/
theorem Takes.of_lexemes (takes : Takes parser tokens last)
    (same : tokens.map Token.lexeme = others.map Token.lexeme)
    : Takes parser others last := by
  induction takes generalizing others with
  | nil =>
      obtain rfl : others = [] := by simpa using same.symm
      exact .nil
  | cons taken _ ih =>
      cases others with
      | nil => cases same
      | cons other others =>
          obtain ⟨first, rest⟩ := List.cons_eq_cons.mp same
          exact .cons (step_of_lexeme first taken) (ih rest)

/-- Whoever takes a sequence takes its front part first, by induction on it. -/
theorem Takes.split (takes : Takes parser (tokens ++ later) last)
    : ∃ between, Takes parser tokens between ∧ Takes between later last := by
  induction tokens generalizing parser with
  | nil => exact ⟨parser, .nil, takes⟩
  | cons token tokens ih =>
      cases takes with
      | cons taken rest =>
          obtain ⟨between, front, back⟩ := ih rest
          exact ⟨between, .cons taken front, back⟩

-----------------------------------------------------------------------------------------
-- Whatever has been taken can be completed
-----------------------------------------------------------------------------------------

/-- A short name. -/
def shortName : Token :=
  ⟨.identifier, 0, 1, "T"⟩

def closingBracket : Token :=
  ⟨.greater, 0, 1, ">"⟩

theorem takeSegment_shortName (frames : List Frame) (name : List String)
    : takeSegment frames name shortName = .ok ⟨.named (name ++ ["T"]), frames⟩ := by
  simp [takeSegment, shortName, reservedNames]

/-- The tokens that complete what has been read: a name where a segment must stand, and the ends of
all open lists.
-/
def completion (parser : TypeParser) : List Token :=
  (if parser.stage.expr? = none then [shortName] else [])
    ++ List.replicate parser.frames.length closingBracket

/-- Open lists are closed one after the other, by induction on them. -/
theorem takes_closing (frames : List Frame) (ended : stage.expr? = some expr) (offset : Nat)
    : ∃ last expr,
        Takes ⟨stage, frames⟩ (List.replicate frames.length closingBracket) last
        ∧ last.finish offset = .ok expr := by
  induction frames generalizing stage expr with
  | nil => exact ⟨⟨stage, []⟩, expr, .nil, finish_eq_ok_iff.mpr ⟨ended, rfl⟩⟩
  | cons frame outer ih =>
      have closed : step ⟨stage, frame :: outer⟩ closingBracket
          = .ok ⟨.applied frame.name (frame.arguments ++ [expr]), outer⟩ := by
        rw [step_ended ended (Or.inr rfl)]
        rfl
      have applied : (Stage.applied frame.name (frame.arguments ++ [expr])).expr?
          = some (.named frame.name (frame.arguments ++ [expr]) false) :=
        rfl
      obtain ⟨last, whole, takes, finished⟩ := ih applied
      exact ⟨last, whole, .cons closed takes, finished⟩

/-- Behind a short name, which ends a type, all lists can be closed. -/
theorem takes_named (offset : Nat)
    (taken : step ⟨stage, frames⟩ shortName = .ok ⟨.named name, frames⟩)
    : ∃ last expr,
        Takes ⟨stage, frames⟩ (shortName :: List.replicate frames.length closingBracket) last
        ∧ last.finish offset = .ok expr := by
  have ended : (Stage.named name).expr? = some (.named name [] false) := rfl
  obtain ⟨last, whole, takes, finished⟩ := takes_closing frames ended offset
  exact ⟨last, whole, .cons taken takes, finished⟩

/-- The completion leads to the end of a type. No limit stops it, as it opens no list. -/
theorem takes_completion (parser : TypeParser) (offset : Nat)
    : ∃ last expr, Takes parser parser.completion last ∧ last.finish offset = .ok expr := by
  obtain ⟨stage, frames⟩ := parser
  cases stage with
  | start => exact takes_named offset (takeSegment_shortName frames [])
  | dotted name => exact takes_named offset (takeSegment_shortName frames name)
  | named _ | applied _ _ | complete _ => exact takes_closing frames rfl offset

/-- Where the end of the text shows an error, the completion is not empty. -/
theorem completion_ne_nil (failed : parser.finish offset = .error error)
    : parser.completion ≠ [] := by
  intro empty
  obtain ⟨last, expr, takes, finished⟩ := parser.takes_completion offset
  rw [empty] at takes
  cases takes
  rw [failed] at finished
  cases finished

-----------------------------------------------------------------------------------------
-- How a run fails
-----------------------------------------------------------------------------------------

theorem finish_error_offset (failed : parser.finish offset = .error error)
    : error.offset = offset := by
  unfold finish at failed
  split at failed <;> first | cases failed; rfl | cases failed

/-- A run fails at the end of the tokens, or at one of them, by induction on the tokens. -/
theorem run_error_cases (failed : parser.run offset tokens = .error error)
    : (∃ last, Takes parser tokens last ∧ last.finish offset = .error error)
      ∨ ∃ before token after between,
          tokens = before ++ token :: after
          ∧ Takes parser before between
          ∧ between.step token = .error error := by
  induction tokens generalizing parser with
  | nil => exact Or.inl ⟨parser, .nil, failed⟩
  | cons token tokens ih =>
      unfold run at failed
      cases taken : parser.step token with
      | error refusal =>
          rw [taken] at failed
          obtain rfl := Except.error.inj failed
          exact Or.inr ⟨[], token, tokens, parser, rfl, .nil, taken⟩
      | ok next =>
          rw [taken] at failed
          rcases ih failed with ⟨last, takes, finished⟩
            | ⟨before, refused, after, between, rfl, takes, refusal⟩
          · exact Or.inl ⟨last, .cons taken takes, finished⟩
          · exact Or.inr ⟨token :: before, refused, after, between, rfl, .cons taken takes, refusal⟩

/-- There is one way to take a sequence, by induction on it. -/
theorem Takes.unique (takes : Takes parser tokens last) (again : Takes parser tokens next)
    : last = next := by
  induction takes with
  | nil =>
      cases again
      rfl
  | cons taken _ ih =>
      cases again with
      | cons same rest =>
          obtain rfl := Except.ok.inj (taken.symm.trans same)
          exact ih rest

/-- A sequence that goes on with a refused token is not taken. -/
theorem not_takes_refused (takes : Takes parser tokens between)
    (refused : between.step token = .error error)
    : ¬ ∃ last, Takes parser (tokens ++ token :: later) last := by
  rintro ⟨last, whole⟩
  obtain ⟨same, front, back⟩ := whole.split
  obtain rfl := takes.unique front
  cases back with
  | cons taken _ =>
      rw [refused] at taken
      cases taken

end TypeParser

-----------------------------------------------------------------------------------------
-- Tokens can be written as a text
-----------------------------------------------------------------------------------------

/-- A token as the scanner makes it: a name, or the character that is its mark. -/
def Token.Lexical (token : Token) : Prop :=
  (token.kind = .identifier ∧ IsIdentifier token.text)
  ∨ ∃ c,
      isWhiteSpace c = false
      ∧ isIdentifierStart c = false
      ∧ token.kind = .ofChar c
      ∧ token.text = String.singleton c

/-- A text with the given tokens, each with a blank behind it. -/
def spaced : List Token → List Char
  | [] => []
  | token :: rest => token.text.toList ++ ([' '] ++ spaced rest)

namespace Scanner

variable {scanner : Scanner} {token : Token} {tokens : List Token} {rest : List Char}

theorem next_lexical (more : scanner.next.1.kind ≠ .endOfText) : scanner.next.1.Lexical := by
  unfold next at more ⊢
  cases left : scanner.rest.dropWhile isWhiteSpace with
  | nil => simp [left] at more
  | cons c rest =>
      have inked : isWhiteSpace c = false := by
        have head := List.head?_dropWhile_not isWhiteSpace scanner.rest
        simpa [left] using head
      dsimp only
      split
      · rename_i start
        exact Or.inl ⟨rfl, c, rest.takeWhile isIdentifierPart, String.toList_ofList, start,
          fun c member => List.mem_takeWhile_imp member⟩
      · rename_i other
        exact Or.inr ⟨c, inked, Bool.eq_false_iff.mpr other, rfl, rfl⟩

/-- All tokens of a text are such tokens, by induction on the rest of the text. -/
theorem lexical_of_mem_tokens (member : token ∈ scanner.tokens.1) : token.Lexical := by
  fun_induction tokens scanner with
  | case1 scanner more later last followed ih =>
      rcases List.mem_cons.mp member with rfl | member
      · exact next_lexical more
      · rw [followed] at ih
        exact ih member
  | case2 scanner => cases member

theorem scans_token (lexical : token.Lexical)
    : Scans token.text.toList (' ' :: rest) fun tokens =>
        ∃ scanned, tokens = [scanned] ∧ scanned.lexeme = token.lexeme := by
  rcases lexical with ⟨kind, word⟩ | ⟨c, inked, other, kind, text⟩
  · refine (scans_word word (stops_cons (by decide))).mono ?_
    rintro _ ⟨scanned, rfl, scannedKind, scannedText⟩
    exact ⟨scanned, rfl, by rw [Token.lexeme, Token.lexeme, kind, scannedKind, scannedText]⟩
  · intro offset
    have taken : (Scanner.mk (c :: ' ' :: rest) offset).next = _ := next_mark inked other
    rw [text, String.toList_singleton]
    exact ⟨_, _, tokens_of_next taken (ofChar_ne_endOfText c), _, rfl,
      by rw [Token.lexeme, Token.lexeme, kind, text]⟩

/-- A written sequence is scanned into itself, by induction on it. -/
theorem scans_spaced (lexical : ∀ token ∈ tokens, token.Lexical)
    : Scans (spaced tokens) rest fun scanned =>
        scanned.map Token.lexeme = tokens.map Token.lexeme := by
  induction tokens with
  | nil => exact .nil rfl
  | cons token tokens ih =>
      have later := ih fun other member => lexical other (List.mem_cons_of_mem _ member)
      refine ((scans_token (lexical token List.mem_cons_self)).append
        ((scans_blank (by decide)).append later)).mono ?_
      rintro _ ⟨_, _, rfl, ⟨scanned, rfl, same⟩, _, others, rfl, rfl, rest⟩
      simp [same, rest]

end Scanner

theorem lexemes_spaced {tokens : List Token} (lexical : ∀ token ∈ tokens, token.Lexical)
    : lexemes (String.ofList (spaced tokens)) = tokens.map Token.lexeme := by
  have scans : Scanner.Scans (spaced tokens) [] _ := Scanner.scans_spaced lexical
  rw [← String.toList_ofList (l := spaced tokens)] at scans
  exact scans.whole

-----------------------------------------------------------------------------------------
-- What the parser takes is viable
-----------------------------------------------------------------------------------------

open TypeParser

variable {tokens : List Token} {last : TypeParser}

theorem completion_lexical (parser : TypeParser)
    : ∀ token ∈ parser.completion, token.Lexical := by
  have short : shortName.Lexical := Or.inl ⟨rfl, by decide⟩
  have closing : closingBracket.Lexical := Or.inr ⟨'>', by decide, by decide, rfl, rfl⟩
  intro token member
  rcases List.mem_append.mp member with first | later
  · split at first
    · exact List.mem_singleton.mp first ▸ short
    · cases first
  · exact List.eq_of_mem_replicate later ▸ closing

/-- Whatever has been taken is completed to the tokens of a text that is read as a type. -/
theorem parse_completed (takes : Takes initial tokens last)
    (lexical : ∀ token ∈ tokens, token.Lexical)
    : ∃ text expr,
        TypeExpr.parse text = .ok expr
        ∧ lexemes text = tokens.map Token.lexeme ++ last.completion.map Token.lexeme := by
  let text := String.ofList (spaced (tokens ++ last.completion))
  have written : lexemes text = (tokens ++ last.completion).map Token.lexeme := by
    refine lexemes_spaced fun token member => ?_
    rcases List.mem_append.mp member with early | late
    · exact lexical token early
    · exact completion_lexical last token late
  obtain ⟨final, expr, completes, finished⟩ :=
    last.takes_completion (Scanner.ofText text).tokens.2.offset
  refine ⟨text, expr, ?_, by rw [written, List.map_append]⟩
  exact run_eq_ok_iff.mpr ⟨final, (takes.append completes).of_lexemes written.symm, finished⟩

theorem viable_of_takes (takes : Takes initial tokens last)
    (lexical : ∀ token ∈ tokens, token.Lexical)
    : Viable tokens := by
  obtain ⟨text, expr, read, same⟩ := parse_completed takes lexical
  exact ⟨text, expr, read, same ▸ List.prefix_append _ _⟩

/-- The parser takes every sequence that starts a text that is read as a type. -/
theorem Viable.takes (viable : Viable tokens) : ∃ last, Takes initial tokens last := by
  obtain ⟨text, expr, read, more, same⟩ := viable
  obtain ⟨final, takes, _⟩ := run_eq_ok_iff.mp read
  obtain ⟨front, back, split, frontSame, _⟩ := List.map_eq_append_iff.mp same.symm
  rw [split] at takes
  obtain ⟨last, early, _⟩ := takes.split
  exact ⟨last, early.of_lexemes frontSame⟩

theorem Extensible.viable (extensible : Extensible tokens) : Viable tokens := by
  obtain ⟨text, expr, more, read, same, _⟩ := extensible
  exact ⟨text, expr, read, same ▸ List.prefix_append _ _⟩

/-- Up to a refused token everything is viable, and with it nothing is. -/
theorem viable_up_to_refused {before : List Token} {token : Token} {between : TypeParser}
    {error : TypeParseError} (takes : Takes initial before between)
    (refused : between.step token = .error error) (lexical : ∀ other ∈ before, other.Lexical)
    (after : List Token)
    : (∀ count ≤ before.length, Viable ((before ++ token :: after).take count))
      ∧ ¬ Viable ((before ++ token :: after).take (before.length + 1))
      ∧ ¬ Viable (before ++ token :: after) := by
  have unviable (later : List Token) : ¬ Viable (before ++ token :: later) :=
    fun viable => not_takes_refused takes refused viable.takes
  refine ⟨fun count early => ?_, ?_, unviable after⟩
  · rw [← List.take_append_drop count before] at takes
    obtain ⟨_, taken, _⟩ := takes.split
    rw [List.take_append_of_le_length early]
    exact viable_of_takes taken fun other member => lexical other (List.mem_of_mem_take member)
  · rw [List.take_length_add_append]
    exact unviable []

/-- When a text is refused, the error is at the end of the text if further tokens would make it a
type. Otherwise it is at the start of the first token with which the tokens no longer start a text
that is read as a type, while all those before it do. So it always is a place in the text.
-/
theorem parse_error_offset {text : String} {error : TypeParseError}
    (failed : TypeExpr.parse text = .error error)
    : let tokens := (Scanner.ofText text).tokens.1
      (Extensible tokens → error.offset = text.utf8ByteSize)
        ∧ (¬ Extensible tokens
            → ∃ index token,
                tokens[index]? = some token
                ∧ error.offset = token.start
                ∧ (∀ count ≤ index, Viable (tokens.take count))
                ∧ ¬ Viable (tokens.take (index + 1)))
        ∧ error.offset ≤ text.utf8ByteSize
        ∧ (⟨error.offset⟩ : String.Pos.Raw).IsValid text := by
  intro tokens
  have lexical : ∀ token ∈ tokens, token.Lexical := fun _ => Scanner.lexical_of_mem_tokens
  rcases run_error_cases failed with ⟨last, takes, finished⟩
    | ⟨before, token, after, between, split, takes, refused⟩
  · have atEnd : error.offset = text.utf8ByteSize :=
      (finish_error_offset finished).trans (Scanner.last_offset text)
    obtain ⟨whole, expr, read, same⟩ := parse_completed takes lexical
    have extensible : Extensible tokens :=
      ⟨whole, expr, _, read, same, by simpa using completion_ne_nil finished⟩
    refine ⟨fun _ => atEnd, fun other => absurd extensible other, Nat.le_of_eq atEnd, ?_⟩
    rw [atEnd]
    exact String.Pos.Raw.isValid_rawEndPos
  · have start := step_error_offset refused
    have split : tokens = before ++ token :: after := split
    obtain ⟨left, reaches, place⟩ := Scanner.exists_reaches_of_mem_tokens
      (split ▸ List.mem_append_right before List.mem_cons_self : token ∈ tokens)
    have valid := reaches.isValid
    rw [place, ← start] at valid
    rw [split] at lexical ⊢
    obtain ⟨viable, refused, unviable⟩ := viable_up_to_refused takes refused
      (fun other member => lexical other (List.mem_append_left _ member)) after
    refine ⟨fun extensible => absurd extensible.viable unviable, fun _ => ?_, valid.le_rawEndPos,
      valid⟩
    exact ⟨before.length, token, by simp, start, viable, refused⟩

set_option maxRecDepth 10000 in
/-- A keyword as an argument is refused where it starts, although its list is never closed: the list
could have gone on with a name.
-/
theorem keyword_argument_offset
    : TypeExpr.parse "A<val" = .error ⟨.reserved "val", 2⟩
      ∧ ¬ Extensible (Scanner.ofText "A<val").tokens.1
      ∧ ∃ index token,
          (Scanner.ofText "A<val").tokens.1[index]? = some token
          ∧ token.start = 2
          ∧ Viable ((Scanner.ofText "A<val").tokens.1.take index)
          ∧ ¬ Viable ((Scanner.ofText "A<val").tokens.1.take (index + 1)) := by
  have failed : TypeExpr.parse "A<val" = .error ⟨.reserved "val", 2⟩ := by
    with_unfolding_all rfl
  obtain ⟨ended, offending, _, _⟩ := parse_error_offset failed
  have final : ¬ Extensible (Scanner.ofText "A<val").tokens.1 :=
    fun extensible => absurd (ended extensible) (by decide)
  obtain ⟨index, token, found, start, viable, refused⟩ := offending final
  exact ⟨failed, final, index, token, found, start.symm, viable index (Nat.le_refl index), refused⟩

end PropertyLint
