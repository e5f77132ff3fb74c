import PropertyLint.Proofs.TypeExpr.Scanning

/-! Where the tokens of a text stand.
The scanner only ever passes over whole characters, so that each token starts on the boundary of a
character, and the scanner comes to rest at the length of the text.
-/

namespace PropertyLint

open Text

-----------------------------------------------------------------------------------------
-- Lengths in bytes
-----------------------------------------------------------------------------------------

namespace Text

/-- The length in bytes is that of the text with these characters. -/
theorem byteLength_eq (text : List Char) : byteLength text = (String.ofList text).utf8ByteSize := by
  induction text with
  | nil => rfl
  | cons c rest ih =>
      rw [byteLength, ih, String.ofList_cons, String.utf8ByteSize_append,
        String.utf8ByteSize_singleton]

theorem byteLength_append (first second : List Char)
    : byteLength (first ++ second) = byteLength first + byteLength second := by
  simp only [byteLength_eq, String.ofList_append, String.utf8ByteSize_append]

end Text

namespace Scanner

variable {scanner between later : Scanner} {token : Token} {text : String}

-----------------------------------------------------------------------------------------
-- The way of the scanner
-----------------------------------------------------------------------------------------

/-- The second scanner stands in the text of the first one, some characters further on. -/
def Reaches (scanner later : Scanner) : Prop :=
  ∃ passed,
    scanner.rest = passed ++ later.rest ∧ later.offset = scanner.offset + byteLength passed

theorem Reaches.refl (scanner : Scanner) : scanner.Reaches scanner :=
  ⟨[], rfl, rfl⟩

theorem Reaches.trans (first : scanner.Reaches between) (second : between.Reaches later)
    : scanner.Reaches later := by
  obtain ⟨early, earlyRest, earlyOffset⟩ := first
  obtain ⟨late, lateRest, lateOffset⟩ := second
  refine ⟨early ++ late, ?_, ?_⟩
  · rw [earlyRest, lateRest, List.append_assoc]
  · rw [lateOffset, earlyOffset, byteLength_append, Nat.add_assoc]

/-- The scanner behind the blanks before its next token. -/
def unblanked (scanner : Scanner) : Scanner where
  rest := scanner.rest.dropWhile isWhiteSpace
  offset := scanner.offset + byteLength (scanner.rest.takeWhile isWhiteSpace)

theorem reaches_unblanked (scanner : Scanner) : scanner.Reaches scanner.unblanked :=
  ⟨scanner.rest.takeWhile isWhiteSpace, List.takeWhile_append_dropWhile.symm, rfl⟩

/-- The next token starts behind the blanks. -/
theorem next_start (scanner : Scanner) : scanner.next.1.start = scanner.unblanked.offset := by
  unfold next
  cases scanner.rest.dropWhile isWhiteSpace with
  | nil => rfl
  | cons c rest =>
      dsimp only
      split <;> rfl

/-- A token takes the characters behind the blanks, whether it is a name or a mark. -/
theorem reaches_next (scanner : Scanner) : scanner.Reaches scanner.next.2 := by
  refine (reaches_unblanked scanner).trans ?_
  unfold next
  cases left : scanner.rest.dropWhile isWhiteSpace with
  | nil => exact ⟨[], left, rfl⟩
  | cons c rest =>
      dsimp only
      split
      · refine ⟨c :: rest.takeWhile isIdentifierPart, ?_, rfl⟩
        simp [unblanked, left]
      · exact ⟨[c], left, rfl⟩

/-- Every token starts where the scanner gets to, by induction on the rest of the text. -/
theorem exists_reaches_of_mem_tokens (member : token ∈ scanner.tokens.1)
    : ∃ left, scanner.Reaches left ∧ left.offset = token.start := by
  fun_induction tokens scanner with
  | case1 scanner more later last followed ih =>
      rcases List.mem_cons.mp member with rfl | member
      · exact ⟨scanner.unblanked, reaches_unblanked scanner, (next_start scanner).symm⟩
      · rw [followed] at ih
        obtain ⟨left, reaches, start⟩ := ih member
        exact ⟨left, (reaches_next scanner).trans reaches, start⟩
  | case2 scanner => cases member

/-- Only at the end of the text is there no further token. -/
theorem next_rest_of_end (last : scanner.next.1.kind = .endOfText) : scanner.next.2.rest = [] := by
  unfold next at last ⊢
  cases left : scanner.rest.dropWhile isWhiteSpace with
  | nil => rfl
  | cons c rest =>
      simp only [left] at last
      split at last
      · cases last
      · exact absurd last (ofChar_ne_endOfText c)

/-- The scanner comes to rest where nothing is left of the text. -/
theorem reaches_last (scanner : Scanner)
    : scanner.Reaches scanner.tokens.2 ∧ scanner.tokens.2.rest = [] := by
  fun_induction tokens scanner with
  | case1 scanner more later last followed ih =>
      rw [followed] at ih
      exact ⟨(reaches_next scanner).trans ih.1, ih.2⟩
  | case2 scanner more =>
      exact ⟨reaches_next scanner, next_rest_of_end (Classical.not_not.mp more)⟩

-----------------------------------------------------------------------------------------
-- Places in a text
-----------------------------------------------------------------------------------------

/-- Wherever the scanner of a text gets to, a character starts or the text ends. -/
theorem Reaches.isValid (reaches : (ofText text).Reaches later)
    : (⟨later.offset⟩ : String.Pos.Raw).IsValid text := by
  obtain ⟨passed, split, offset⟩ := reaches
  refine String.Pos.Raw.isValid_iff_exists_append.mpr
    ⟨String.ofList passed, String.ofList later.rest, ?_, ?_⟩
  · rw [← String.ofList_append, ← split, ofText, String.ofList_toList]
  · rw [offset, byteLength_eq]
    simp [ofText, String.rawEndPos]

/-- The scanner of a text comes to rest at the length of the text. -/
theorem last_offset (text : String) : (ofText text).tokens.2.offset = text.utf8ByteSize := by
  obtain ⟨⟨passed, split, offset⟩, ended⟩ := reaches_last (ofText text)
  rw [ended, List.append_nil] at split
  rw [offset, byteLength_eq, ← split, ofText, String.ofList_toList, Nat.zero_add]

end Scanner

end PropertyLint
