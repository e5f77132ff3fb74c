import PropertyLint.Json.Text

/-! How blanks and strings are written in JSON, and how they are read.
A content has many spellings, and reading gives it back from each of them. A string that is only
skipped has to be written correctly; surrogates in it may stand alone.
-/

namespace PropertyLint.Json

-----------------------------------------------------------------------------------------
-- How they are written
-----------------------------------------------------------------------------------------

/-- A text of blanks. -/
def Blank (text : List Char) : Prop :=
  ∀ c ∈ text, isBlank c

/-- Four hexadecimal digits and the number that they write. -/
inductive Hex : List Char → Nat → Prop
  | digits {a b c d : Char} {i j k l : Nat} (first : hexValue? a = some i)
    (second : hexValue? b = some j) (third : hexValue? c = some k) (fourth : hexValue? d = some l)
    : Hex [a, b, c, d] (((i * 16 + j) * 16 + k) * 16 + l)

/-- The spellings of a content between quotes: characters for themselves or escaped by a letter, by
their number, or by the two numbers of a surrogate pair.
-/
inductive Spells : List Char → List Char → Prop
  | nil : Spells [] []
  | plain {c content text} (allowed : 0x20 ≤ c.toNat) (noQuote : c ≠ '"') (noEscape : c ≠ '\\')
    (rest : Spells content text)
    : Spells (c :: content) (c :: text)
  | letter {letter c content text} (known : escapedChar? letter = some c)
    (rest : Spells content text)
    : Spells (c :: content) ('\\' :: letter :: text)
  | number {digits c content text} (hex : Hex digits c.toNat) (rest : Spells content text)
    : Spells (c :: content) ('\\' :: 'u' :: (digits ++ text))
  | pair {high low lead trail c content text} (highHex : Hex high lead) (lowHex : Hex low trail)
    (leads : 0xD800 ≤ lead ∧ lead ≤ 0xDBFF) (trails : 0xDC00 ≤ trail ∧ trail ≤ 0xDFFF)
    (decoded : c.toNat = 0x10000 + (lead - 0xD800) * 0x400 + (trail - 0xDC00))
    (rest : Spells content text)
    : Spells (c :: content) ('\\' :: 'u' :: (high ++ '\\' :: 'u' :: (low ++ text)))

/-- What may stand between the quotes of a string: every escape is written correctly. -/
inductive Quotable : List Char → Prop
  | nil : Quotable []
  | plain {c text} (allowed : 0x20 ≤ c.toNat) (noQuote : c ≠ '"') (noEscape : c ≠ '\\')
    (rest : Quotable text)
    : Quotable (c :: text)
  | letter {letter text} (known : (escapedChar? letter).isSome) (rest : Quotable text)
    : Quotable ('\\' :: letter :: text)
  | number {digits unit text} (hex : Hex digits unit) (rest : Quotable text)
    : Quotable ('\\' :: 'u' :: (digits ++ text))

variable {text rest content digits : List Char} {c : Char} {unit : Nat}

-----------------------------------------------------------------------------------------
-- Blanks and words
-----------------------------------------------------------------------------------------

theorem blank_nil : Blank [] := by
  simp [Blank]

theorem skipBlank_append (blank : Blank text) : skipBlank (text ++ rest) = skipBlank rest :=
  List.dropWhile_append_of_pos blank

theorem skipBlank_inked (inked : isBlank c = false) : skipBlank (c :: rest) = c :: rest :=
  List.dropWhile_cons_of_neg (by simp [inked])

theorem skipBlank_append_inked (blank : Blank text) (inked : isBlank c = false)
    : skipBlank (text ++ c :: rest) = c :: rest := by
  rw [skipBlank_append blank, skipBlank_inked inked]

theorem expectWord_append (word rest : List Char) : expectWord word (word ++ rest) = .ok rest := by
  induction word with
  | nil => rfl
  | cons c word ih => simpa [expectWord] using ih

theorem expectColon_append (blank : Blank text) : expectColon (text ++ ':' :: rest) = .ok rest := by
  rw [expectColon, skipBlank_append_inked blank (by decide)]
  rfl

-----------------------------------------------------------------------------------------
-- Escapes
-----------------------------------------------------------------------------------------

theorem Hex.read (hex : Hex digits unit) : readHex (digits ++ rest) = .ok (unit, rest) := by
  cases hex with
  | digits first second third fourth =>
      simp only [readHex, List.cons_append, List.nil_append, first, second, third, fourth]

theorem readEscape_letter {letter : Char} (known : escapedChar? letter = some c)
    : readEscape (letter :: rest) = .ok (c, rest) := by
  have other : letter ≠ 'u' := by
    rintro rfl
    cases known
  rw [readEscape, known]
  exact other

theorem skipEscape_letter {letter : Char} (known : (escapedChar? letter).isSome)
    : skipEscape (letter :: rest) = .ok rest := by
  have other : letter ≠ 'u' := by
    rintro rfl
    cases known
  rw [skipEscape, if_pos known]
  exact other

/-- A character is no surrogate, so its number stands for itself. -/
theorem readEscape_number (hex : Hex digits c.toNat)
    : readEscape ('u' :: (digits ++ rest)) = .ok (c, rest) := by
  have scalar : c.toNat < 0xD800 ∨ 0xDFFF < c.toNat := by
    rcases c.valid with low | high
    · exact Or.inl low
    · exact Or.inr high.1
  have noTrail : ¬ (0xDC00 ≤ c.toNat ∧ c.toNat ≤ 0xDFFF) := by omega
  have noLead : ¬ (0xD800 ≤ c.toNat ∧ c.toNat ≤ 0xDBFF) := by omega
  simp only [readEscape, readUnicodeEscape, hex.read, bind, Except.bind, noTrail, noLead, if_false,
    Char.ofNat_toNat]

theorem readEscape_pair {high low : List Char} {lead trail : Nat} (highHex : Hex high lead)
    (lowHex : Hex low trail) (leads : 0xD800 ≤ lead ∧ lead ≤ 0xDBFF)
    (trails : 0xDC00 ≤ trail ∧ trail ≤ 0xDFFF)
    (decoded : c.toNat = 0x10000 + (lead - 0xD800) * 0x400 + (trail - 0xDC00))
    : readEscape ('u' :: (high ++ '\\' :: 'u' :: (low ++ rest))) = .ok (c, rest) := by
  have noTrail : ¬ (0xDC00 ≤ lead ∧ lead ≤ 0xDFFF) := by omega
  have joined : (lead - 0xD800) * 0x400 + (trail - 0xDC00) + 0x10000 = c.toNat := by omega
  have word : expectWord ['\\', 'u'] ('\\' :: 'u' :: (low ++ rest)) = .ok (low ++ rest) :=
    expectWord_append ['\\', 'u'] _
  simp only [readEscape, readUnicodeEscape, highHex.read, bind, Except.bind, noTrail, leads, word,
    lowHex.read, trails, joined, and_self, if_false, if_true, Char.ofNat_toNat]

-----------------------------------------------------------------------------------------
-- Strings
-----------------------------------------------------------------------------------------

theorem readChars_escape {behind : List Char} (read : readEscape text = .ok (c, behind))
    : readChars ('\\' :: text)
      = (readChars behind).map fun (content, rest) => (c :: content, rest) := by
  rw [readChars]
  split
  · rename_i failed
    rw [read] at failed
    cases failed
  · rename_i found
    rw [read] at found
    cases found
    rfl

theorem skipString_escape {behind : List Char} (skipped : skipEscape text = .ok behind)
    : skipString ('\\' :: text) = skipString behind := by
  rw [skipString]
  split
  · rename_i failed
    rw [skipped] at failed
    cases failed
  · rename_i found
    rw [skipped] at found
    cases found
    rfl

/-- Reading gives the content back, by induction on its spelling. -/
theorem Spells.readChars (spells : Spells content text)
    : readChars (text ++ '"' :: rest) = .ok (content, rest) := by
  induction spells with
  | nil => rw [List.nil_append, Json.readChars]
  | plain allowed noQuote noEscape _ ih =>
      rw [List.cons_append, Json.readChars, if_neg (Nat.not_lt.mpr allowed), ih]
      · rfl
      · exact noQuote
      · exact noEscape
  | letter known _ ih =>
      rw [List.cons_append, List.cons_append, readChars_escape (readEscape_letter known), ih]
      rfl
  | number hex _ ih =>
      rw [List.cons_append, List.cons_append, List.append_assoc,
        readChars_escape (readEscape_number hex), ih]
      rfl
  | pair highHex lowHex leads trails decoded _ ih =>
      simp only [List.cons_append, List.append_assoc]
      rw [readChars_escape (readEscape_pair highHex lowHex leads trails decoded), ih]
      rfl

/-- Skipping finds the closing quote, by induction on what stands before it. -/
theorem Quotable.skipString (quotable : Quotable text)
    : skipString (text ++ '"' :: rest) = .ok rest := by
  induction quotable with
  | nil => rw [List.nil_append, Json.skipString]
  | plain allowed noQuote noEscape _ ih =>
      rw [List.cons_append, Json.skipString, if_neg (Nat.not_lt.mpr allowed), ih]
      · exact noQuote
      · exact noEscape
  | letter known _ ih =>
      rw [List.cons_append, List.cons_append, skipString_escape (skipEscape_letter known), ih]
  | @number digits unit text hex _ ih =>
      have skipped : skipEscape ('u' :: (digits ++ (text ++ '"' :: rest)))
          = .ok (text ++ '"' :: rest) := by
        simp only [skipEscape, hex.read, Except.map]
      rw [List.cons_append, List.cons_append, List.append_assoc, skipString_escape skipped, ih]

end PropertyLint.Json
