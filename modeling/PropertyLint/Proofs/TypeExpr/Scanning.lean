import Mathlib.Data.List.TakeWhile
import PropertyLint.TypeExpr.Token

/-! What the scanner makes of a text whose beginning is known.
Blanks, names and marks are told apart by the classes of their characters. Scanning is described
for a front part of the text, whatever follows it, so that descriptions of parts put together give
one of the whole.
-/

namespace PropertyLint

open Text

-----------------------------------------------------------------------------------------
-- White space and marks are no part of a name
-----------------------------------------------------------------------------------------

/-- A point of a list of ranges lies in one of them, by induction on the list. -/
theorem Text.exists_range_of_inRanges {ranges : List (Nat × Nat)} {point : Nat}
    (inside : inRanges ranges point)
    : ∃ range ∈ ranges, range.1 ≤ point ∧ point ≤ range.2 := by
  induction ranges with
  | nil => cases inside
  | cons range rest ih =>
      simp only [inRanges, Bool.and_eq_true, Bool.or_eq_true, decide_eq_true_eq] at inside
      rcases inside with ⟨low, high | later⟩
      · exact ⟨range, List.mem_cons_self, low, high⟩
      · obtain ⟨found, member, bounds⟩ := ih later
        exact ⟨found, List.mem_cons_of_mem _ member, bounds⟩

/-- The ranges of white space hold few points, which are looked up in the other tables. -/
theorem whiteSpace_apart
    : ∀ range ∈ whiteSpaceRanges,
        ∀ point ∈ List.range' range.1 (range.2 + 1 - range.1),
          point ≠ '_'.toNat
          ∧ inRanges alphabeticRanges point = false
          ∧ inRanges numericRanges point = false := by
  decide +kernel

theorem not_isIdentifierPart_of_isWhiteSpace {c : Char} (blank : isWhiteSpace c)
    : isIdentifierPart c = false := by
  obtain ⟨range, member, low, high⟩ := exists_range_of_inRanges blank
  have inside : c.toNat ∈ List.range' range.1 (range.2 + 1 - range.1) :=
    List.mem_range'_1.mpr ⟨low, by omega⟩
  obtain ⟨underscore, alphabetic, numeric⟩ := whiteSpace_apart range member c.toNat inside
  have other : c ≠ '_' := fun same => underscore (same ▸ rfl)
  simp [isIdentifierPart, isAlphabetic, isNumeric, alphabetic, numeric, other]

theorem isIdentifierPart_of_isIdentifierStart {c : Char} (start : isIdentifierStart c)
    : isIdentifierPart c := by
  simp only [isIdentifierStart, isIdentifierPart, Bool.or_eq_true] at start ⊢
  exact Or.inl start

theorem not_isWhiteSpace_of_isIdentifierStart {c : Char} (start : isIdentifierStart c)
    : isWhiteSpace c = false := by
  refine Bool.eq_false_iff.mpr fun blank => ?_
  have part := isIdentifierPart_of_isIdentifierStart start
  rw [not_isIdentifierPart_of_isWhiteSpace blank] at part
  cases part

/-- A text that is one name. -/
def IsIdentifier (text : String) : Prop :=
  ∃ first rest,
    text.toList = first :: rest
    ∧ isIdentifierStart first
    ∧ ∀ c ∈ rest, isIdentifierPart c

/-- Whether a text is one name is seen from its characters. -/
theorem isIdentifier_iff {text : String}
    : IsIdentifier text
      ↔ (text.toList.head?.any isIdentifierStart && text.toList.tail.all isIdentifierPart) := by
  unfold IsIdentifier
  cases text.toList with
  | nil => simp
  | cons first rest => simp [and_assoc]

instance (text : String) : Decidable (IsIdentifier text) :=
  decidable_of_iff _ isIdentifier_iff.symm

theorem IsIdentifier.isIdentifierPart {text : String} (word : IsIdentifier text)
    : ∀ c ∈ text.toList, isIdentifierPart c := by
  obtain ⟨first, rest, spelled, start, parts⟩ := word
  intro c member
  rw [spelled] at member
  rcases List.mem_cons.mp member with rfl | member
  · exact isIdentifierPart_of_isIdentifierStart start
  · exact parts c member

namespace Scanner

variable {offset : Nat} {c : Char} {rest : List Char}

-----------------------------------------------------------------------------------------
-- The next token
-----------------------------------------------------------------------------------------

theorem tokens_end (offset : Nat) : (Scanner.mk [] offset).tokens.1 = [] := by
  rw [tokens]
  simp [next]

/-- The tokens are the next one and those behind it. -/
theorem tokens_of_next {scanner : Scanner} {token : Token} {stop : Nat}
    (taken : scanner.next = (token, ⟨rest, stop⟩)) (more : token.kind ≠ .endOfText)
    : scanner.tokens.1 = [token] ++ (Scanner.mk rest stop).tokens.1 := by
  rw [tokens, taken, dif_pos more]
  rfl

/-- The next step decides all tokens. -/
theorem tokens_congr {scanner other : Scanner} (same : scanner.next = other.next)
    : scanner.tokens = other.tokens := by
  rw [tokens, same]
  symm
  rw [tokens]

/-- A blank is skipped. -/
theorem tokens_blank (blank : isWhiteSpace c)
    : (Scanner.mk (c :: rest) offset).tokens.1
      = (Scanner.mk rest (offset + c.utf8Size)).tokens.1 := by
  have skipped : (Scanner.mk (c :: rest) offset).next
      = (Scanner.mk rest (offset + c.utf8Size)).next := by
    simp only [next, List.takeWhile_cons_of_pos blank, List.dropWhile_cons_of_pos blank, byteLength,
      Nat.add_assoc]
  exact congrArg Prod.fst (tokens_congr skipped)

/-- The character after a name is no part of it. -/
def Stops (rest : List Char) : Prop :=
  ∀ c ∈ rest.head?, isIdentifierPart c = false

theorem stops_nil : Stops [] := by
  simp [Stops]

theorem stops_cons (other : isIdentifierPart c = false) : Stops (c :: rest) := by
  simpa [Stops] using other

/-- A name is taken as one token. -/
theorem next_word {text : String} (word : IsIdentifier text) (stops : Stops rest)
    : let stop := offset + byteLength text.toList
      (Scanner.mk (text.toList ++ rest) offset).next
        = (⟨.identifier, offset, stop, text⟩, ⟨rest, stop⟩) := by
  obtain ⟨first, later, spelled, start, parts⟩ := word
  have inked : ¬ isWhiteSpace first := by simp [not_isWhiteSpace_of_isIdentifierStart start]
  have taken : (later ++ rest).takeWhile isIdentifierPart = later := by
    rw [List.takeWhile_append_of_pos parts]
    cases rest with
    | nil => simp
    | cons c rest => simp [stops c rfl]
  have left : (later ++ rest).dropWhile isIdentifierPart = rest := by
    rw [List.dropWhile_append_of_pos parts]
    cases rest with
    | nil => rfl
    | cons c rest => simp [stops c rfl]
  have whole : String.ofList (first :: later) = text := by rw [← spelled, String.ofList_toList]
  simp only [spelled, next, List.cons_append, List.takeWhile_cons_of_neg inked,
    List.dropWhile_cons_of_neg inked, byteLength, start, taken, left, whole, if_true, Nat.add_zero]

/-- A character that neither starts a name nor is blank is a token of its own. -/
theorem next_mark (inked : isWhiteSpace c = false) (other : isIdentifierStart c = false)
    : (Scanner.mk (c :: rest) offset).next
      = (⟨.ofChar c, offset, offset + c.utf8Size, String.singleton c⟩,
          ⟨rest, offset + c.utf8Size⟩) := by
  simp [next, inked, other, byteLength]

/-- A token that is called a name is one. -/
theorem next_isIdentifier {scanner : Scanner} (word : scanner.next.1.kind = .identifier)
    : IsIdentifier scanner.next.1.text := by
  unfold next at word ⊢
  dsimp only at word ⊢
  split at word
  · cases word
  · rename_i first later _
    split at word
    · rename_i start
      refine ⟨first, later.takeWhile isIdentifierPart, ?_, start, fun c member => ?_⟩
      · simp [start]
      · exact List.mem_takeWhile_imp member
    · unfold TokenKind.ofChar at word
      split at word <;> cases word

/-- All tokens that are called names are names, by induction on the rest of the text. -/
theorem isIdentifier_of_mem_tokens {scanner : Scanner} {token : Token}
    (member : token ∈ scanner.tokens.1) (word : token.kind = .identifier)
    : IsIdentifier token.text := by
  fun_induction tokens scanner with
  | case1 scanner more later last followed ih =>
      rcases List.mem_cons.mp member with rfl | member
      · exact next_isIdentifier word
      · rw [followed] at ih
        exact ih member
  | case2 scanner => cases member

-----------------------------------------------------------------------------------------
-- Scanning the front part of a text
-----------------------------------------------------------------------------------------

/-- At the front of any text that goes on with `rest`, `text` is scanned into tokens of which
`holds` is true.
-/
def Scans (text rest : List Char) (holds : List Token → Prop) : Prop :=
  ∀ offset,
    ∃ tokens stop,
      (Scanner.mk (text ++ rest) offset).tokens.1 = tokens ++ (Scanner.mk rest stop).tokens.1
      ∧ holds tokens

variable {text first second : List Char} {holds wider left right : List Token → Prop}

theorem Scans.mono (scans : Scans text rest holds) (weaken : ∀ tokens, holds tokens → wider tokens)
    : Scans text rest wider := by
  intro offset
  obtain ⟨tokens, stop, scanned, held⟩ := scans offset
  exact ⟨tokens, stop, scanned, weaken tokens held⟩

theorem Scans.nil (held : holds []) : Scans [] rest holds :=
  fun offset => ⟨[], offset, rfl, held⟩

/-- Two parts are scanned one after the other. -/
theorem Scans.append (front : Scans first (second ++ rest) left) (back : Scans second rest right)
    : Scans (first ++ second) rest fun tokens =>
        ∃ early late, tokens = early ++ late ∧ left early ∧ right late := by
  intro offset
  obtain ⟨early, middle, scanned, held⟩ := front offset
  obtain ⟨late, stop, scannedLate, heldLate⟩ := back middle
  refine ⟨early ++ late, stop, ?_, early, late, rfl, held, heldLate⟩
  rw [List.append_assoc, scanned, scannedLate, List.append_assoc]

theorem scans_word {text : String} (word : IsIdentifier text) (stops : Stops rest)
    : Scans text.toList rest fun tokens =>
        ∃ token, tokens = [token] ∧ token.kind = .identifier ∧ token.text = text := by
  intro offset
  exact ⟨_, _, tokens_of_next (next_word word stops) (by simp), _, rfl, rfl, rfl⟩

theorem scans_mark (inked : isWhiteSpace c = false) (other : isIdentifierStart c = false)
    : Scans [c] rest fun tokens => ∃ token, tokens = [token] ∧ token.kind = .ofChar c := by
  intro offset
  have taken : (Scanner.mk (c :: rest) offset).next = _ := next_mark inked other
  exact ⟨_, _, tokens_of_next taken (ofChar_ne_endOfText c), _, rfl, rfl⟩

theorem scans_blank (blank : isWhiteSpace c) : Scans [c] rest (· = []) :=
  fun _ => ⟨[], _, tokens_blank blank, rfl⟩

/-- A text that is scanned up to its end has the tokens that are claimed of it. -/
theorem Scans.whole {text : String} (scans : Scans text.toList [] holds)
    : holds (ofText text).tokens.1 := by
  obtain ⟨tokens, stop, scanned, held⟩ := scans 0
  rw [tokens_end, List.append_nil, List.append_nil] at scanned
  rwa [ofText, scanned]

end Scanner

end PropertyLint
