import PropertyLint.Json.Skip
import PropertyLint.Proofs.Json.Strings

/-! How JSON values are written, and that skipping one takes exactly its text.
The grammar has a relation for each kind of value. Values nest to any depth; the skipper keeps the
open brackets on a list, and each part of a value leaves this list as it was.
-/

namespace PropertyLint.Json

-----------------------------------------------------------------------------------------
-- How they are written
-----------------------------------------------------------------------------------------

def Digits (text : List Char) : Prop :=
  text ≠ [] ∧ ∀ c ∈ text, isDigit c

/-- A whole number without superfluous zeros. -/
def WholePart (text : List Char) : Prop :=
  text = ['0'] ∨ Digits text ∧ text.head? ≠ some '0'

def FractionPart (text : List Char) : Prop :=
  text = [] ∨ ∃ digits, Digits digits ∧ text = '.' :: digits

def ExponentPart (text : List Char) : Prop :=
  text = []
  ∨ ∃ mark sign digits,
      mark ∈ ['e', 'E'] ∧ sign ∈ [[], ['+'], ['-']] ∧ Digits digits
      ∧ text = mark :: (sign ++ digits)

/-- A number without a sign. -/
def Magnitude (text : List Char) : Prop :=
  ∃ whole fraction exponent,
    WholePart whole ∧ FractionPart fraction ∧ ExponentPart exponent
    ∧ text = whole ++ fraction ++ exponent

/-- A key with its colon and the blanks around; in a skipped object only the quotes matter. -/
def IsKey (text : List Char) : Prop :=
  ∃ before inner between,
    Blank before ∧ Quotable inner ∧ Blank between
    ∧ text = before ++ '"' :: (inner ++ '"' :: (between ++ [':']))

/-- The literal values. -/
def words : List (List Char) :=
  [['n', 'u', 'l', 'l'], ['t', 'r', 'u', 'e'], ['f', 'a', 'l', 's', 'e']]

mutual

/-- A value of any kind, without blanks around it. -/
inductive IsValue : List Char → Prop
  | word {text} (known : text ∈ words) : IsValue text
  | number {text} (magnitude : Magnitude text) : IsValue text
  | negative {text} (magnitude : Magnitude text) : IsValue ('-' :: text)
  | string {inner} (quotable : Quotable inner) : IsValue ('"' :: (inner ++ ['"']))
  | emptyArray {text} (blank : Blank text) : IsValue ('[' :: (text ++ [']']))
  | array {text} (elements : IsElements text) : IsValue ('[' :: (text ++ [']']))
  | emptyObject {text} (blank : Blank text) : IsValue ('\x7b' :: (text ++ ['\x7d']))
  | object {text} (members : IsMembers text) : IsValue ('\x7b' :: (text ++ ['\x7d']))

/-- Values with commas between them. -/
inductive IsElements : List Char → Prop
  | last {before value after} (blank : Blank before) (isValue : IsValue value)
    (blankAfter : Blank after)
    : IsElements (before ++ value ++ after)
  | more {before value after rest} (blank : Blank before) (isValue : IsValue value)
    (blankAfter : Blank after) (elements : IsElements rest)
    : IsElements (before ++ value ++ after ++ ',' :: rest)

/-- Keys with their values and commas between them. -/
inductive IsMembers : List Char → Prop
  | last {key before value after} (isKey : IsKey key) (blank : Blank before)
    (isValue : IsValue value) (blankAfter : Blank after)
    : IsMembers (key ++ before ++ value ++ after)
  | more {key before value after rest} (isKey : IsKey key) (blank : Blank before)
    (isValue : IsValue value) (blankAfter : Blank after) (members : IsMembers rest)
    : IsMembers (key ++ before ++ value ++ after ++ ',' :: rest)

end

variable {text rest digits before after : List Char} {c : Char}

-----------------------------------------------------------------------------------------
-- Numbers
-----------------------------------------------------------------------------------------

/-- What follows a number does not continue it. -/
def Ends (rest : List Char) : Prop :=
  ∀ c ∈ rest.head?, isDigit c = false ∧ c ∉ ['.', 'e', 'E']

theorem ends_cons (other : isDigit c = false) (noMark : c ∉ ['.', 'e', 'E'])
    : Ends (c :: rest) := by
  intro first same
  obtain rfl := Option.some.inj same
  exact ⟨other, noMark⟩

/-- A blank ends a number. -/
theorem Blank.ends (blank : Blank text) (ends : Ends rest) : Ends (text ++ rest) := by
  cases text with
  | nil => exact ends
  | cons c text =>
      have first := blank c List.mem_cons_self
      simp only [isBlank, Bool.or_eq_true, decide_eq_true_eq] at first
      refine ends_cons ?_ ?_
      all_goals
        rcases first with ((rfl | rfl) | rfl) | rfl <;> decide

theorem skipDigits_append (written : Digits digits) (ended : startsWithDigit rest = false)
    : skipDigits (digits ++ rest) = .ok rest := by
  obtain ⟨some, all⟩ := written
  have left : rest.dropWhile isDigit = rest := by
    cases rest with
    | nil => rfl
    | cons c rest => exact List.dropWhile_cons_of_neg (by simpa [startsWithDigit] using ended)
  cases digits with
  | nil => exact absurd rfl some
  | cons c digits =>
      have first : startsWithDigit (c :: digits ++ rest) := all c List.mem_cons_self
      rw [skipDigits, if_pos first, List.dropWhile_append_of_pos all, left]

theorem skipWhole_append (written : WholePart text) (ended : startsWithDigit rest = false)
    : skipWhole (text ++ rest) = .ok rest := by
  rcases written with rfl | ⟨digits, noZero⟩
  · simp [skipWhole, ended]
  · rw [skipWhole]
    · exact skipDigits_append digits ended
    · intro tail same
      cases text with
      | nil => exact absurd rfl digits.1
      | cons c text =>
          obtain ⟨rfl, _⟩ := List.cons_eq_cons.mp same
          exact noZero rfl

theorem startsWithDigit_eq_false (other : ∀ c ∈ text.head?, isDigit c = false)
    : startsWithDigit text = false := by
  cases text with
  | nil => rfl
  | cons c text => exact other c rfl

theorem Ends.noDigit (ends : Ends rest) : startsWithDigit rest = false :=
  startsWithDigit_eq_false fun c first => (ends c first).1

/-- Neither a digit nor a point follows what comes before an exponent. -/
theorem ExponentPart.first (written : ExponentPart text) (ends : Ends rest)
    : ∀ c ∈ (text ++ rest).head?, isDigit c = false ∧ c ≠ '.' := by
  rcases written with rfl | ⟨mark, sign, digits, known, _, _, rfl⟩
  · intro c first
    obtain ⟨other, noMark⟩ := ends c first
    exact ⟨other, fun point => noMark (by simp [point])⟩
  · intro c first
    obtain rfl := Option.some.inj first
    simp only [List.mem_cons, List.not_mem_nil, or_false] at known
    rcases known with rfl | rfl <;> decide

/-- No digit follows the whole part of a number. -/
theorem FractionPart.noDigit {exponent : List Char} (written : FractionPart text)
    (follows : ExponentPart exponent) (ends : Ends rest)
    : startsWithDigit (text ++ (exponent ++ rest)) = false := by
  rcases written with rfl | ⟨digits, _, rfl⟩
  · exact startsWithDigit_eq_false fun c first => (follows.first ends c first).1
  · rfl

theorem skipExponent_append (written : ExponentPart text) (ends : Ends rest)
    : skipExponent (text ++ rest) = .ok rest := by
  rcases written with rfl | ⟨mark, sign, digits, known, signed, digital, rfl⟩
  · cases rest with
    | nil => rfl
    | cons c rest =>
        have noMark := (ends c rfl).2
        simp only [List.mem_cons, List.not_mem_nil, or_false, not_or] at noMark
        rw [List.nil_append, skipExponent]
        all_goals simp [noMark]
  · have skipped : skipDigits (digits ++ rest) = .ok rest := skipDigits_append digital ends.noDigit
    have unsigned : ∀ c tail, digits ++ rest = c :: tail → isDigit c := by
      intro c tail same
      cases digits with
      | nil => exact absurd rfl digital.1
      | cons digit digits =>
          obtain ⟨rfl, _⟩ := List.cons_eq_cons.mp same
          exact digital.2 digit List.mem_cons_self
    -- Without a sign, the first digit must not be taken for one.
    simp only [List.mem_cons, List.not_mem_nil, or_false] at known signed
    rcases known with rfl | rfl
    all_goals
      rcases signed with rfl | rfl | rfl
      · rw [List.nil_append, List.cons_append, skipExponent, skipped]
        · intro tail same
          exact absurd (unsigned '+' tail same) (by decide)
        · intro tail same
          exact absurd (unsigned '-' tail same) (by decide)
      · exact skipped
      · exact skipped

/-- A fraction ends where an exponent starts or the number ends. -/
theorem skipFraction_append {exponent : List Char} (written : FractionPart text)
    (follows : ExponentPart exponent) (ends : Ends rest)
    : skipFraction (text ++ (exponent ++ rest)) = .ok (exponent ++ rest) := by
  rcases written with rfl | ⟨digits, digital, rfl⟩
  · rw [List.nil_append, skipFraction]
    intro tail same
    exact (follows.first ends '.' (by rw [same]; rfl)).2 rfl
  · exact skipDigits_append digital
      (startsWithDigit_eq_false fun c first => (follows.first ends c first).1)

theorem Magnitude.skipNumber (written : Magnitude text) (ends : Ends rest)
    : skipNumber (text ++ rest) = .ok rest := by
  obtain ⟨whole, fraction, exponent, wholePart, fractionPart, exponentPart, rfl⟩ := written
  rw [Json.skipNumber, List.append_assoc, List.append_assoc,
    skipWhole_append wholePart (fractionPart.noDigit exponentPart ends)]
  simp only [bind, Except.bind, skipFraction_append fractionPart exponentPart ends,
    skipExponent_append exponentPart ends]

/-- A number without a sign starts with a digit. -/
theorem Magnitude.first (written : Magnitude text) : ∃ c tail, text = c :: tail ∧ isDigit c := by
  obtain ⟨whole, fraction, exponent, wholePart, _, _, rfl⟩ := written
  rcases wholePart with rfl | ⟨⟨some, all⟩, _⟩
  · exact ⟨'0', _, rfl, by decide⟩
  · cases whole with
    | nil => exact absurd rfl some
    | cons c whole => exact ⟨c, _, rfl, all c List.mem_cons_self⟩

-----------------------------------------------------------------------------------------
-- One turn of the skipper
-----------------------------------------------------------------------------------------

def Bracket.closing : Bracket → Char
  | .array => ']'
  | .object => '\x7d'

variable {brackets outer : List Bracket}

theorem skipWithin_blank (blank : Blank before)
    : skipWithin .value brackets (before ++ text) = skipWithin .value brackets text := by
  rw [skipWithin, skipWithin, skipBlank_append blank]

theorem skipWithin_array
    : skipWithin .value brackets ('[' :: text) = skipWithin .opened (.array :: brackets) text := by
  rw [skipWithin]
  rfl

theorem skipWithin_object
    : skipWithin .value brackets ('\x7b' :: text)
      = skipWithin .opened (.object :: brackets) text := by
  rw [skipWithin]
  rfl

theorem skipWithin_scalar (skipped : skipScalar (skipBlank text) = .ok rest)
    : skipWithin .value brackets text = skipWithin .closed brackets rest := by
  rw [skipWithin]
  split
  · rename_i opening
    rw [opening] at skipped
    cases skipped
  · rename_i opening
    rw [opening] at skipped
    cases skipped
  · split
    · rename_i failed
      rw [skipped] at failed
      cases failed
    · rename_i found
      rw [skipped] at found
      cases found
      rfl

/-- In an array that has been opened, elements follow unless it is closed at once. -/
theorem skipWithin_elements (first : skipBlank text = c :: rest) (other : c ≠ ']')
    : skipWithin .opened (.array :: outer) text = skipWithin .value (.array :: outer) text := by
  conv => lhs; rw [skipWithin, first]
  split
  · rename_i none
    cases none
  · rename_i closing
    exact absurd (List.cons_eq_cons.mp closing).1 other
  · rfl

/-- In an object that has been opened, a key follows unless it is closed at once. -/
theorem skipWithin_members (first : skipBlank text = '"' :: before)
    (keyed : skipKey text = .ok rest)
    : skipWithin .opened (.object :: outer) text = skipWithin .value (.object :: outer) rest := by
  conv => lhs; rw [skipWithin, first, keyed]
  rfl

/-- A closing bracket ends what its opening one has begun, whether anything stands between them. -/
theorem skipWithin_close {stage : SkipStage} (behind : stage ≠ .value) (bracket : Bracket)
    (blank : Blank after)
    : skipWithin stage (bracket :: outer) (after ++ bracket.closing :: rest)
      = skipWithin .closed outer rest := by
  have inked : isBlank bracket.closing = false := by cases bracket <;> decide
  conv => lhs; rw [skipWithin.eq_def, skipBlank_append_inked blank inked]
  cases stage with
  | value => exact absurd rfl behind
  | opened => cases bracket <;> rfl
  | closed => cases bracket <;> rfl

theorem skipWithin_nextElement (blank : Blank after)
    : skipWithin .closed (.array :: outer) (after ++ ',' :: text)
      = skipWithin .value (.array :: outer) text := by
  conv => lhs; rw [skipWithin, skipBlank_append_inked blank (by decide)]
  rfl

theorem skipWithin_nextMember (blank : Blank after) (keyed : skipKey text = .ok rest)
    : skipWithin .closed (.object :: outer) (after ++ ',' :: text)
      = skipWithin .value (.object :: outer) rest := by
  conv => lhs; rw [skipWithin, skipBlank_append_inked blank (by decide)]; simp only
  rw [keyed]

-----------------------------------------------------------------------------------------
-- Values
-----------------------------------------------------------------------------------------

/-- A key is skipped with its colon. -/
theorem IsKey.skipKey (isKey : IsKey text)
    : (∃ tail, skipBlank (text ++ rest) = '"' :: tail) ∧ skipKey (text ++ rest) = .ok rest := by
  obtain ⟨before, inner, between, blank, quotable, blankBetween, rfl⟩ := isKey
  have opening : skipBlank (before ++ '"' :: (inner ++ '"' :: (between ++ [':'])) ++ rest)
      = '"' :: (inner ++ '"' :: (between ++ ':' :: rest)) := by
    rw [List.append_assoc, skipBlank_append blank]
    simp only [List.cons_append, List.append_assoc, List.nil_append]
    exact skipBlank_inked (by decide)
  refine ⟨⟨_, opening⟩, ?_⟩
  rw [Json.skipKey, opening]
  simp only [quotable.skipString]
  exact expectColon_append blankBetween

theorem words_first (known : text ∈ words)
    : ∃ c tail, text = c :: tail ∧ isBlank c = false ∧ c ≠ ']' := by
  simp only [words, List.mem_cons, List.not_mem_nil, or_false] at known
  rcases known with rfl | rfl | rfl
  all_goals exact ⟨_, _, rfl, by decide, by decide⟩

theorem isBlank_of_isDigit (digit : isDigit c) : isBlank c = false := by
  refine Bool.eq_false_iff.mpr fun blank => ?_
  simp only [isBlank, Bool.or_eq_true, decide_eq_true_eq] at blank
  rcases blank with ((rfl | rfl) | rfl) | rfl
  all_goals exact absurd digit (by decide)

/-- A value starts with a character of its own. -/
theorem IsValue.first (isValue : IsValue text)
    : ∃ c tail, text = c :: tail ∧ isBlank c = false ∧ c ≠ ']' := by
  cases isValue with
  | word known => exact words_first known
  | number magnitude =>
      obtain ⟨c, tail, rfl, digit⟩ := magnitude.first
      refine ⟨c, tail, rfl, isBlank_of_isDigit digit, ?_⟩
      rintro rfl
      exact absurd digit (by decide)
  | _ => exact ⟨_, _, rfl, by decide, by decide⟩

/-- The words and the numbers without a sign are skipped as a whole. -/
theorem skipScalar_word (known : text ∈ words) : skipScalar (text ++ rest) = .ok rest := by
  simp only [words, List.mem_cons, List.not_mem_nil, or_false] at known
  rcases known with rfl | rfl | rfl
  · exact expectWord_append ['u', 'l', 'l'] rest
  · exact expectWord_append ['r', 'u', 'e'] rest
  · exact expectWord_append ['a', 'l', 's', 'e'] rest

theorem Magnitude.skipScalar (magnitude : Magnitude text) (ends : Ends rest)
    : skipScalar (text ++ rest) = .ok rest := by
  have skipped := magnitude.skipNumber ends
  obtain ⟨c, tail, rfl, digit⟩ := magnitude.first
  rw [List.cons_append] at skipped ⊢
  rw [Json.skipScalar, if_pos digit, skipped]
  all_goals
    rintro rfl
    exact absurd digit (by decide)

theorem IsElements.first (elements : IsElements text)
    : ∃ c tail, skipBlank (text ++ rest) = c :: tail ∧ c ≠ ']' := by
  cases elements with
  | last blank isValue _ =>
      obtain ⟨c, tail, rfl, inked, other⟩ := isValue.first
      simp only [List.append_assoc, List.cons_append, skipBlank_append blank]
      exact ⟨c, _, skipBlank_inked inked, other⟩
  | more blank isValue _ _ =>
      obtain ⟨c, tail, rfl, inked, other⟩ := isValue.first
      simp only [List.append_assoc, List.cons_append, skipBlank_append blank]
      exact ⟨c, _, skipBlank_inked inked, other⟩

mutual

/-- A value is skipped whatever brackets are open, by induction on how it is written. -/
theorem IsValue.skipped {text rest : List Char} (isValue : IsValue text) (ends : Ends rest)
    (brackets : List Bracket)
    : skipWithin .value brackets (text ++ rest) = skipWithin .closed brackets rest := by
  cases isValue with
  | word known =>
      obtain ⟨c, tail, rfl, inked, _⟩ := words_first known
      refine skipWithin_scalar ?_
      rw [List.cons_append, skipBlank_inked inked]
      exact skipScalar_word known
  | number magnitude =>
      obtain ⟨c, tail, rfl, digit⟩ := magnitude.first
      refine skipWithin_scalar ?_
      rw [List.cons_append, skipBlank_inked (isBlank_of_isDigit digit)]
      exact magnitude.skipScalar ends
  | negative magnitude => exact skipWithin_scalar (magnitude.skipNumber ends)
  | string quotable =>
      rw [List.cons_append, List.append_assoc]
      exact skipWithin_scalar quotable.skipString
  | emptyArray blank =>
      rw [List.cons_append, List.append_assoc, skipWithin_array]
      exact skipWithin_close (by decide) .array blank
  | array elements =>
      rw [List.cons_append, List.append_assoc, skipWithin_array]
      obtain ⟨c, tail, first, other⟩ := elements.first
      rw [skipWithin_elements first other]
      exact elements.skipped brackets
  | emptyObject blank =>
      rw [List.cons_append, List.append_assoc, skipWithin_object]
      exact skipWithin_close (by decide) .object blank
  | object members =>
      rw [List.cons_append, List.append_assoc, skipWithin_object]
      obtain ⟨tail, behind, opening, keyed, skipped⟩ := members.skipped brackets
      rw [← skipped]
      exact skipWithin_members opening keyed
termination_by (text.length, 0)
decreasing_by
  all_goals simp only [Prod.lex_def, List.length_append, List.length_cons]
  all_goals omega

theorem IsElements.skipped {text rest : List Char} (elements : IsElements text)
    (outer : List Bracket)
    : skipWithin .value (.array :: outer) (text ++ ']' :: rest)
      = skipWithin .closed outer rest := by
  cases elements with
  | last blank isValue blankAfter =>
      rw [List.append_assoc, List.append_assoc, skipWithin_blank blank,
        isValue.skipped (blankAfter.ends (ends_cons (by decide) (by decide)))]
      exact skipWithin_close (by decide) .array blankAfter
  | more blank isValue blankAfter elements =>
      simp only [List.append_assoc, List.cons_append]
      rw [skipWithin_blank blank,
        isValue.skipped (blankAfter.ends (ends_cons (by decide) (by decide))),
        skipWithin_nextElement blankAfter]
      exact elements.skipped outer
termination_by (text.length, 1)
decreasing_by
  all_goals simp only [Prod.lex_def, List.length_append, List.length_cons]
  all_goals omega

theorem IsMembers.skipped {text rest : List Char} (members : IsMembers text)
    (outer : List Bracket)
    : ∃ tail behind,
        skipBlank (text ++ '\x7d' :: rest) = '"' :: tail
        ∧ skipKey (text ++ '\x7d' :: rest) = .ok behind
        ∧ skipWithin .value (.object :: outer) behind = skipWithin .closed outer rest := by
  cases members with
  | last isKey blank isValue blankAfter =>
      simp only [List.append_assoc]
      obtain ⟨⟨tail, opening⟩, keyed⟩ := isKey.skipKey
      refine ⟨tail, _, opening, keyed, ?_⟩
      rw [skipWithin_blank blank,
        isValue.skipped (blankAfter.ends (ends_cons (by decide) (by decide)))]
      exact skipWithin_close (by decide) .object blankAfter
  | more isKey blank isValue blankAfter members =>
      simp only [List.append_assoc, List.cons_append]
      obtain ⟨⟨tail, opening⟩, keyed⟩ := isKey.skipKey
      obtain ⟨_, behind, _, nextKeyed, skipped⟩ := members.skipped outer
      refine ⟨tail, _, opening, keyed, ?_⟩
      rw [skipWithin_blank blank,
        isValue.skipped (blankAfter.ends (ends_cons (by decide) (by decide))),
        skipWithin_nextMember blankAfter nextKeyed, skipped]
termination_by (text.length, 1)
decreasing_by
  all_goals simp only [Prod.lex_def, List.length_append, List.length_cons]
  all_goals omega

end

/-- Skipping a value, with blanks before it, takes exactly its text. -/
theorem IsValue.skipValue (isValue : IsValue text) (blank : Blank before) (ends : Ends rest)
    : skipValue (before ++ (text ++ rest)) = .ok rest := by
  rw [Json.skipValue, skipWithin_blank blank, isValue.skipped ends, skipWithin]

end PropertyLint.Json
