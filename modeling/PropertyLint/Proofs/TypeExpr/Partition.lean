import PropertyLint.Proofs.TypeExpr.TokenPlaces

/-! The tokens of a text partition it.
Each token covers characters of its own, as they stand in the text: a whole name or a single mark.
Between the tokens there are blanks only, so that every character is either part of exactly one
token or blank.
-/

namespace PropertyLint

open Text

/-- The kind is that of a mark, and of this mark. A character that starts no name and is neither
blank nor one of the marks of type expressions is unknown.
-/
def TokenKind.Marks : TokenKind → Char → Prop
  | .identifier, _ => False
  | .dot, c => c = '.'
  | .comma, c => c = ','
  | .less, c => c = '<'
  | .greater, c => c = '>'
  | .question, c => c = '?'
  | .asterisk, c => c = '*'
  | .unknown, c =>
    isWhiteSpace c = false ∧ isIdentifierStart c = false ∧ c ∉ ['.', ',', '<', '>', '?', '*']
  | .endOfText, _ => False

/-- A character that starts no name and is not blank is a mark of its own kind. -/
theorem TokenKind.marks_ofChar {c : Char} (inked : isWhiteSpace c = false)
    (other : isIdentifierStart c = false)
    : (TokenKind.ofChar c).Marks c := by
  unfold ofChar
  split
  case h_7 dot comma less greater question asterisk =>
    refine ⟨inked, other, ?_⟩
    simp only [List.mem_cons, List.not_mem_nil, or_false, not_or]
    exact ⟨dot, comma, less, greater, question, asterisk⟩
  all_goals rfl

/-- A mark is not blank, whichever it is. -/
theorem TokenKind.Marks.inked {kind : TokenKind} {c : Char} (marks : kind.Marks c)
    : isWhiteSpace c = false := by
  cases kind <;> simp only [Marks] at marks
  case unknown => exact marks.1
  all_goals
    subst marks
    decide

/-- A character of two texts put together is in the first or in the second one. -/
theorem Text.split_append {first second passed behind : List Char} {c : Char}
    (whole : first ++ second = passed ++ c :: behind)
    : (∃ between, first = passed ++ c :: between)
      ∨ ∃ between, passed = first ++ between ∧ second = between ++ c :: behind := by
  rcases List.append_eq_append_iff.mp whole with ⟨between, split, rest⟩ | ⟨between, split, rest⟩
  · exact Or.inr ⟨between, split, rest⟩
  · cases between with
    | nil =>
        rw [List.append_nil] at split
        exact Or.inr ⟨[], by simp [split], rest.symm⟩
    | cons head between =>
        obtain ⟨rfl, _⟩ := List.cons_eq_cons.mp rest
        exact Or.inl ⟨between, split⟩

namespace Scanner

/-- The token is a name that ends before `rest`, or a mark. -/
def WellCut (token : Token) (rest : List Char) : Prop :=
  (token.kind = .identifier ∧ IsIdentifier token.text ∧ Stops rest)
  ∨ ∃ c, token.text = String.singleton c ∧ token.kind.Marks c

/-- The scanner passes over blanks and cuts the token off the text, after which `later` scans. -/
structure Cuts (scanner : Scanner) (token : Token) (later : Scanner) : Prop where
  split
    : ∃ blanks,
        (∀ c ∈ blanks, isWhiteSpace c)
        ∧ scanner.rest = blanks ++ token.text.toList ++ later.rest
        ∧ token.start = scanner.offset + byteLength blanks
        ∧ token.stop = token.start + byteLength token.text.toList
  offset : later.offset = token.stop
  wellCut : WellCut token later.rest

/-- The text of the scanner is cut into the tokens, and only blanks are left over. -/
inductive Tiles : Scanner → List Token → Prop
  | blank {scanner} (blank : ∀ c ∈ scanner.rest, isWhiteSpace c) : Tiles scanner []
  | token {scanner token later tokens} (cut : Cuts scanner token later) (rest : Tiles later tokens)
    : Tiles scanner (token :: tokens)

variable {scanner later : Scanner} {token : Token} {tokens : List Token}
  {rest before after : List Char} {c : Char}

theorem WellCut.kind_ne (wellCut : WellCut token rest) : token.kind ≠ .endOfText := by
  rcases wellCut with ⟨word, _⟩ | ⟨c, _, marks⟩
  · simp [word]
  · intro last
    rw [last] at marks
    exact marks

/-- No character of a token is blank. -/
theorem WellCut.inked (wellCut : WellCut token rest)
    : ∀ c ∈ token.text.toList, isWhiteSpace c = false := by
  intro c member
  rcases wellCut with ⟨_, word, _⟩ | ⟨mark, spelled, marks⟩
  · refine Bool.eq_false_iff.mpr fun blank => ?_
    have part := word.isIdentifierPart c member
    rw [not_isIdentifierPart_of_isWhiteSpace blank] at part
    cases part
  · obtain rfl : c = mark := by simpa [spelled] using member
    exact marks.inked

/-- A token has at least one character. -/
theorem WellCut.byteLength_pos (wellCut : WellCut token rest)
    : 0 < byteLength token.text.toList := by
  rcases wellCut with ⟨_, ⟨first, later, spelled, _⟩, _⟩ | ⟨c, spelled, _⟩
  · rw [spelled, byteLength]
    exact Nat.add_pos_left first.utf8Size_pos _
  · simpa [spelled, byteLength] using c.utf8Size_pos

-----------------------------------------------------------------------------------------
-- The scanner cuts tokens off
-----------------------------------------------------------------------------------------

/-- The token at the end of a text: it covers nothing. -/
def endToken (offset : Nat) : Token :=
  ⟨.endOfText, offset, offset, ""⟩

/-- Either a token is cut off, a name or a mark, or only blanks are left and passed over. -/
theorem next_cases (scanner : Scanner)
    : Cuts scanner scanner.next.1 scanner.next.2
      ∨ (∀ c ∈ scanner.rest, isWhiteSpace c)
        ∧ ∃ stop, scanner.next = (endToken stop, ⟨[], stop⟩) := by
  have blank : ∀ c ∈ scanner.rest.takeWhile isWhiteSpace, isWhiteSpace c :=
    fun c member => List.mem_takeWhile_imp member
  have whole : scanner.rest.takeWhile isWhiteSpace ++ scanner.rest.dropWhile isWhiteSpace
      = scanner.rest :=
    List.takeWhile_append_dropWhile
  have inked := List.head?_dropWhile_not isWhiteSpace scanner.rest
  unfold next
  cases left : scanner.rest.dropWhile isWhiteSpace with
  | nil => exact Or.inr ⟨List.dropWhile_eq_nil_iff.mp left, _, rfl⟩
  | cons c rest =>
      rw [left] at whole inked
      left
      dsimp only
      split
      · rename_i start
        have split : rest.takeWhile isIdentifierPart ++ rest.dropWhile isIdentifierPart = rest :=
          List.takeWhile_append_dropWhile
        refine ⟨⟨_, blank, ?_, rfl, ?_⟩, rfl, Or.inl ⟨rfl, ?_, ?_⟩⟩
        · simp only [String.toList_ofList, List.append_assoc, List.cons_append, split, whole]
        · simp only [String.toList_ofList]
        · exact ⟨c, _, String.toList_ofList, start, fun _ member => List.mem_takeWhile_imp member⟩
        · intro part first
          have stops := List.head?_dropWhile_not isIdentifierPart rest
          rwa [first] at stops
      · rename_i other
        refine ⟨⟨_, blank, ?_, rfl, ?_⟩, rfl, Or.inr ⟨c, rfl, ?_⟩⟩
        · simp only [String.toList_singleton, List.append_assoc, List.cons_append, List.nil_append,
            whole]
        · simp only [String.toList_singleton, byteLength, Nat.add_zero]
        · exact TokenKind.marks_ofChar inked (Bool.eq_false_iff.mpr other)

/-- A token that is no end token is cut off. -/
theorem next_cuts (more : scanner.next.1.kind ≠ .endOfText)
    : Cuts scanner scanner.next.1 scanner.next.2 := by
  rcases next_cases scanner with cuts | ⟨_, stop, ended⟩
  · exact cuts
  · exact absurd (by rw [ended, endToken]) more

/-- At the end token only blanks are left, and they are passed over. -/
theorem next_ended (last : scanner.next.1.kind = .endOfText)
    : (∀ c ∈ scanner.rest, isWhiteSpace c)
      ∧ ∃ stop, scanner.next = (endToken stop, ⟨[], stop⟩) := by
  rcases next_cases scanner with cuts | ended
  · exact absurd last cuts.wellCut.kind_ne
  · exact ended

/-- The tokens of a scanner tile its text, by induction on the rest of the text. -/
theorem tokens_tile (scanner : Scanner) : Tiles scanner scanner.tokens.1 := by
  fun_induction tokens scanner with
  | case1 scanner more later last followed ih =>
      rw [followed] at ih
      exact .token (next_cuts more) ih
  | case2 scanner more => exact .blank (next_ended (Classical.not_not.mp more)).1

-----------------------------------------------------------------------------------------
-- Calls of the scanner
-----------------------------------------------------------------------------------------

/-- The token that the scanner yields when it has been called `count` times before. -/
def call (scanner : Scanner) : Nat → Token
  | 0 => scanner.next.1
  | count + 1 => scanner.next.2.call count

/-- Where nothing is left, every call yields the end token. -/
theorem call_end (offset count : Nat) : (Scanner.mk [] offset).call count = endToken offset := by
  induction count with
  | zero => rfl
  | succ count ih => exact ih

/-- The calls yield the tokens one after the other and then the end token, by induction on the rest
of the text.
-/
theorem call_eq (scanner : Scanner) (count : Nat)
    : scanner.call count = scanner.tokens.1.getD count (endToken scanner.tokens.2.offset) := by
  fun_induction tokens scanner generalizing count with
  | case1 scanner more later last followed ih =>
      rw [followed] at ih
      cases count with
      | zero => rfl
      | succ count => exact ih count
  | case2 scanner more =>
      obtain ⟨_, stop, ended⟩ := next_ended (Classical.not_not.mp more)
      rw [ended]
      cases count with
      | zero => rw [call, ended]; rfl
      | succ count => rw [call, ended, call_end]; rfl

-----------------------------------------------------------------------------------------
-- Places in the text of the scanner
-----------------------------------------------------------------------------------------

/-- Each token covers characters of the text and ends well, by induction on the tokens. -/
theorem Tiles.occurs (tiles : Tiles scanner tokens) (member : token ∈ tokens)
    : ∃ before after,
        scanner.rest = before ++ token.text.toList ++ after
        ∧ token.start = scanner.offset + byteLength before
        ∧ token.stop = token.start + byteLength token.text.toList
        ∧ WellCut token after := by
  induction tiles with
  | blank => cases member
  | @token scanner first later tokens cut _ ih =>
      obtain ⟨blanks, _, split, start, stop⟩ := cut.split
      rcases List.mem_cons.mp member with rfl | member
      · exact ⟨blanks, later.rest, split, start, stop, cut.wellCut⟩
      · obtain ⟨before, after, laterSplit, laterStart, laterStop, wellCut⟩ := ih member
        refine ⟨blanks ++ first.text.toList ++ before, after, ?_, ?_, laterStop, wellCut⟩
        · rw [split, laterSplit]
          simp only [List.append_assoc]
        · rw [laterStart, cut.offset, stop, start]
          simp only [byteLength_append, Nat.add_assoc]

theorem Tiles.start_lt_stop (tiles : Tiles scanner tokens) (member : token ∈ tokens)
    : token.start < token.stop := by
  obtain ⟨_, _, _, _, stop, wellCut⟩ := tiles.occurs member
  have some := wellCut.byteLength_pos
  omega

theorem Tiles.offset_le_start (tiles : Tiles scanner tokens) (member : token ∈ tokens)
    : scanner.offset ≤ token.start := by
  obtain ⟨_, _, _, start, _⟩ := tiles.occurs member
  omega

/-- Each token ends before the next one starts, by induction on the tokens. -/
theorem Tiles.ordered (tiles : Tiles scanner tokens)
    : tokens.Pairwise fun earlier later => earlier.stop ≤ later.start := by
  induction tiles with
  | blank => exact .nil
  | token cut rest ih =>
      refine .cons (fun other member => ?_) ih
      rw [← cut.offset]
      exact rest.offset_le_start member

/-- Up to the end of the next token, the characters before it are blank and its own ones are not. -/
theorem Cuts.inked_iff (cut : Cuts scanner token later)
    (whole : scanner.rest = before ++ c :: after)
    (near : scanner.offset + byteLength before < later.offset)
    : isWhiteSpace c = false ↔ token.start ≤ scanner.offset + byteLength before := by
  obtain ⟨blanks, blank, split, start, stop⟩ := cut.split
  rw [cut.offset, stop, start] at near
  rw [split, List.append_assoc] at whole
  rcases split_append whole with ⟨_, inBlanks⟩ | ⟨inner, passedOver, whole⟩
  · have blankHere := blank c (by simp [inBlanks])
    have lengths := congrArg byteLength inBlanks
    have positive := c.utf8Size_pos
    simp only [byteLength_append, byteLength] at lengths
    simp only [blankHere, Bool.true_eq_false, false_iff]
    omega
  · rcases split_append whole with ⟨_, inToken⟩ | ⟨_, behind, _⟩
    · have inked := cut.wellCut.inked c (by simp [inToken])
      simp only [inked, start, passedOver, byteLength_append, true_iff]
      omega
    · simp only [passedOver, behind, byteLength_append] at near
      omega

/-- From the end of the next token on, a character is in the rest of the text. -/
theorem Cuts.behind (cut : Cuts scanner token later) (whole : scanner.rest = before ++ c :: after)
    (far : later.offset ≤ scanner.offset + byteLength before)
    : ∃ passed,
        later.rest = passed ++ c :: after
        ∧ scanner.offset + byteLength before = later.offset + byteLength passed := by
  obtain ⟨blanks, _, split, start, stop⟩ := cut.split
  rw [split] at whole
  rcases split_append whole with ⟨_, front⟩ | ⟨passed, passedOver, back⟩
  · have lengths := congrArg byteLength front
    have positive := c.utf8Size_pos
    rw [cut.offset, stop, start] at far
    simp only [byteLength_append, byteLength] at lengths
    omega
  · refine ⟨passed, back, ?_⟩
    rw [passedOver, cut.offset, stop, start]
    simp only [byteLength_append, Nat.add_assoc]

/-- Exactly the characters that are not blank are part of a token, by induction on the tokens: a
character stands before the end of the first one or in the rest of the text.
-/
theorem Tiles.inked_iff (tiles : Tiles scanner tokens)
    (whole : scanner.rest = before ++ c :: after)
    : isWhiteSpace c = false
      ↔ ∃ token ∈ tokens,
          token.start ≤ scanner.offset + byteLength before
          ∧ scanner.offset + byteLength before < token.stop := by
  induction tiles generalizing before with
  | blank blank => simp [blank c (by simp [whole])]
  | @token scanner first later tokens cut rest ih =>
      simp only [List.mem_cons, or_and_right, exists_or, exists_eq_left]
      rw [← cut.offset]
      by_cases near : scanner.offset + byteLength before < later.offset
      · rw [cut.inked_iff whole near]
        refine ⟨fun start => Or.inl ⟨start, near⟩, ?_⟩
        rintro (⟨start, _⟩ | ⟨token, member, start, _⟩)
        · exact start
        · have apart := rest.offset_le_start member
          omega
      · obtain ⟨passed, back, place⟩ := cut.behind whole (Nat.not_lt.mp near)
        rw [ih back, ← place]
        exact ⟨Or.inr, fun found => found.resolve_left fun inside => near inside.2⟩

-----------------------------------------------------------------------------------------
-- Texts
-----------------------------------------------------------------------------------------

/-- The tokens cover the text except for its blanks. -/
structure Partition (text : String) (tokens : List Token) : Prop where
  /-- A token stands where its range says, as a whole name or as a mark. -/
  occurs
    : ∀ token ∈ tokens,
        ∃ before after,
          text.toList = before ++ token.text.toList ++ after
          ∧ token.start = byteLength before
          ∧ token.stop = byteLength (before ++ token.text.toList)
          ∧ WellCut token after
  /-- A range is not empty, and no character lies across one of its ends. -/
  range
    : ∀ token ∈ tokens,
        token.start < token.stop
        ∧ (⟨token.start⟩ : String.Pos.Raw).IsValid text
        ∧ (⟨token.stop⟩ : String.Pos.Raw).IsValid text
  ordered : tokens.Pairwise fun earlier later => earlier.stop ≤ later.start
  /-- Exactly the characters that are not blank lie in the range of a token. -/
  inked_iff
    : ∀ before c after,
        text.toList = before ++ c :: after
        → (isWhiteSpace c = false
            ↔ ∃ token ∈ tokens,
                token.start ≤ byteLength before ∧ byteLength before < token.stop)

/-- Calling the scanner of a text again and again yields the tokens of the text, and from then on
the end token with the empty range at the end of the text. None of the tokens is an end token, and
they partition the text: each covers a whole name or one mark, the ranges ascend and do not overlap,
and the characters outside of them are the blanks.
-/
theorem tokens_partition_text (text : String)
    : (∀ count,
        (ofText text).call count
          = (ofText text).tokens.1.getD count (endToken text.utf8ByteSize))
      ∧ (∀ token ∈ (ofText text).tokens.1, token.kind ≠ .endOfText)
      ∧ Partition text (ofText text).tokens.1 := by
  have tiles := tokens_tile (ofText text)
  refine ⟨fun count => ?_, fun token member => ?_, ?_, ?_, tiles.ordered, ?_⟩
  · rw [call_eq, last_offset]
  · obtain ⟨_, _, _, _, _, wellCut⟩ := tiles.occurs member
    exact wellCut.kind_ne
  · intro token member
    obtain ⟨before, after, split, start, stop, wellCut⟩ := tiles.occurs member
    refine ⟨before, after, split, ?_, ?_, wellCut⟩
    · rw [start, ofText, Nat.zero_add]
    · rw [stop, start, ofText, Nat.zero_add, byteLength_append]
  · intro token member
    obtain ⟨before, after, split, start, stop, _⟩ := tiles.occurs member
    have first : (ofText text).Reaches ⟨token.text.toList ++ after, token.start⟩ :=
      ⟨before, by rw [split, List.append_assoc], start⟩
    have last : (ofText text).Reaches ⟨after, token.stop⟩ :=
      ⟨before ++ token.text.toList, split, by rw [stop, start, byteLength_append, Nat.add_assoc]⟩
    exact ⟨tiles.start_lt_stop member, first.isValid, last.isValid⟩
  · intro before c after whole
    have inked := tiles.inked_iff whole
    rwa [ofText, Nat.zero_add] at inked

end Scanner

end PropertyLint
