import Mathlib.Data.List.DropRight
import PropertyLint.Text.LineMap

/-! Positions of offsets are exact.
A line starts at the beginning of a text and behind each of its line feeds. Bisection over these
starts finds the last one at or before an offset, so that the position of an offset says how many
lines end before it and how many bytes lie between the last of these ends and the offset.
-/

namespace PropertyLint

/-- The byte that ends a line. -/
def lineFeed : UInt8 := 10

/-- Where the lines of a text start: at the beginning, and behind each line feed. -/
def lineStarts (bytes : List UInt8) : List Nat :=
  0 :: bytes.idxsOf lineFeed 1

/-- Where the last line of a text starts: behind the last line feed, or at the beginning. -/
def lastLineStart (bytes : List UInt8) : Nat :=
  (bytes.rdropWhile (· ≠ lineFeed)).length

/-- The first position is on an earlier line, or further to the left on the same one. -/
def Position.Precedes (first second : Position) : Prop :=
  first.line < second.line ∨ first.line = second.line ∧ first.column < second.column

variable {bytes : List UInt8} {starts : Array Nat} {offset line : Nat}

/-- A line has a start for each line feed before it. -/
@[simp] theorem length_lineStarts (bytes : List UInt8)
    : (lineStarts bytes).length = bytes.count lineFeed + 1 := by
  simp [lineStarts]

theorem lineStarts_append (first second : List UInt8)
    : lineStarts (first ++ second)
      = lineStarts first ++ second.idxsOf lineFeed (1 + first.length) := by
  simp [lineStarts, List.idxsOf_append]

theorem lineStarts_take_append_drop (bytes : List UInt8) (offset : Nat)
    : lineStarts bytes
      = lineStarts (bytes.take offset)
        ++ (bytes.drop offset).idxsOf lineFeed (1 + (bytes.take offset).length) := by
  rw [← lineStarts_append, List.take_append_drop]

/-- No line starts behind the end of the text. -/
theorem le_length_of_mem_lineStarts {start : Nat} (member : start ∈ lineStarts bytes)
    : start ≤ bytes.length := by
  rcases List.mem_cons.mp member with rfl | behind
  · exact Nat.zero_le _
  · have bound := List.lt_add_of_mem_idxsOf start behind
    omega

/-- What a line feed at or behind an offset begins starts behind the offset. -/
theorem lt_of_mem_later {start : Nat}
    (member : start ∈ (bytes.drop offset).idxsOf lineFeed (1 + (bytes.take offset).length))
    : offset < start := by
  have lower := List.ge_of_mem_idxsOf start member
  have upper := List.lt_add_of_mem_idxsOf start member
  simp only [List.length_take, List.length_drop] at lower upper
  omega

/-- Line starts ascend. -/
theorem pairwise_lineStarts (bytes : List UInt8) : (lineStarts bytes).Pairwise (· < ·) := by
  refine List.pairwise_cons.mpr ⟨fun start behind => ?_, List.pairwise_idxsOf⟩
  have bound := List.ge_of_mem_idxsOf start behind
  omega

theorem lastLineStart_le_length (bytes : List UInt8) : lastLineStart bytes ≤ bytes.length :=
  (List.rdropWhile_prefix _ bytes).length_le

/-- The last entry is the start of the last line, by induction on the text from its end. -/
theorem getElem?_lineStarts_count (bytes : List UInt8)
    : (lineStarts bytes)[bytes.count lineFeed]? = some (lastLineStart bytes) := by
  induction bytes using List.reverseRecOn with
  | nil => rfl
  | append_singleton bytes byte ih =>
      rw [lineStarts_append]
      by_cases feed : byte = lineFeed
      · subst feed
        simp [lastLineStart, Nat.add_comm]
      · simpa [lastLineStart, feed] using ih

namespace LineMap

/-- The scan notes the start of each line behind what it has passed over, by induction on the bytes
ahead.
-/
theorem foldl_passByte (bytes : List UInt8) (passed : Nat) (starts : Array Nat)
    : bytes.foldl passByte (passed, starts)
      = (passed + bytes.length, starts ++ (bytes.idxsOf lineFeed (passed + 1)).toArray) := by
  induction bytes generalizing passed starts with
  | nil => simp
  | cons byte bytes ih =>
      have length : passed + 1 + bytes.length = passed + (byte :: bytes).length := by
        rw [List.length_cons]
        omega
      rw [List.foldl_cons, passByte, ih, length]
      refine Prod.ext rfl (Array.ext' ?_)
      by_cases feed : byte = 10 <;> simp [lineFeed, feed]

/-- A line map lists the line starts of its text. -/
theorem toList_starts (bytes : List UInt8) : (ofBytes bytes).starts.toList = lineStarts bytes := by
  simp [ofBytes, foldl_passByte, lineStarts]

/-- Bisection finds the place where the entries begin to lie above the offset, by induction on the
halving.
-/
theorem firstAbove_eq {split low high : Nat}
    (cut : ∀ index < starts.size, starts.getD index 0 ≤ offset ↔ index < split)
    (above : low ≤ split) (below : split ≤ high) (inside : high ≤ starts.size)
    : firstAbove starts offset low high = split := by
  fun_induction firstAbove starts offset low high with
  | case1 low high open_ middle early ih =>
      have passed := (cut middle (by omega)).mp early
      exact ih (by omega) below inside
  | case2 low high open_ middle late ih =>
      have passed := (cut middle (by omega)).not.mp late
      exact ih above (by omega) (by omega)
  | case3 low high closed => omega

/-- Up to an offset start the lines that are begun in the bytes before it, and no others. -/
theorem getD_starts_le_iff (bytes : List UInt8) (offset : Nat) {index : Nat}
    (known : index < (ofBytes bytes).starts.size)
    : (ofBytes bytes).starts.getD index 0 ≤ offset
      ↔ index < (lineStarts (bytes.take offset)).length := by
  have listed : index < (lineStarts bytes).length := by
    rwa [← toList_starts, Array.length_toList]
  have entry : (ofBytes bytes).starts.getD index 0 = (lineStarts bytes)[index] := by
    simp [Array.getD, known, ← toList_starts]
  rw [entry]
  simp only [lineStarts_take_append_drop bytes offset]
  by_cases early : index < (lineStarts (bytes.take offset)).length
  · have bound := le_length_of_mem_lineStarts (List.getElem_mem early)
    rw [List.getElem_append_left early]
    simp only [early, iff_true]
    exact Nat.le_trans bound (List.length_take_le offset bytes)
  · rw [List.getElem_append_right (Nat.not_lt.mp early)]
    simp only [early, iff_false, Nat.not_le]
    exact lt_of_mem_later (List.getElem_mem _)

/-- The line of an offset is the last one begun in the bytes before it. -/
theorem position_line (bytes : List UInt8) (offset : Nat)
    : ((ofBytes bytes).position offset).line = (bytes.take offset).count lineFeed := by
  have size : (ofBytes bytes).starts.size = bytes.count lineFeed + 1 := by
    rw [← Array.length_toList, toList_starts, length_lineStarts]
  have fewer : (bytes.take offset).count lineFeed ≤ bytes.count lineFeed :=
    (List.take_sublist offset bytes).count_le lineFeed
  have found : firstAbove (ofBytes bytes).starts offset 0 (ofBytes bytes).starts.size
      = (lineStarts (bytes.take offset)).length := by
    refine firstAbove_eq (fun index known => getD_starts_le_iff bytes offset known)
      (Nat.zero_le _) ?_ (Nat.le_refl _)
    rw [length_lineStarts, size]
    omega
  simp [position, found]

/-- The line of an offset starts behind the last line feed before it. -/
theorem starts_position_line (bytes : List UInt8) (offset : Nat)
    : (ofBytes bytes).starts[((ofBytes bytes).position offset).line]?
      = some (lastLineStart (bytes.take offset)) := by
  rw [position_line, ← Array.getElem?_toList, toList_starts,
    lineStarts_take_append_drop bytes offset, List.getElem?_append_left (by simp)]
  exact getElem?_lineStarts_count _

theorem position_column (bytes : List UInt8) (offset : Nat)
    : ((ofBytes bytes).position offset).column = offset - lastLineStart (bytes.take offset) := by
  have start := starts_position_line bytes offset
  rw [position] at start ⊢
  simp only at start ⊢
  rw [Array.getD_eq_getD_getElem?, start, Option.getD_some]

/-- Line start and column make the offset: no line starts behind the offsets that lie on it. -/
theorem lastLineStart_add_column (bytes : List UInt8) (offset : Nat)
    : lastLineStart (bytes.take offset) + ((ofBytes bytes).position offset).column = offset := by
  have start := Nat.le_trans (lastLineStart_le_length (bytes.take offset))
    (List.length_take_le offset bytes)
  rw [position_column]
  omega

/-- Positions keep the order of offsets: a later offset is on the same line or on a later one. -/
theorem position_precedes (bytes : List UInt8) {later : Nat} (before : offset < later)
    : ((ofBytes bytes).position offset).Precedes ((ofBytes bytes).position later) := by
  have fewer : (bytes.take offset).count lineFeed ≤ (bytes.take later).count lineFeed :=
    (List.take_sublist_take_left (Nat.le_of_lt before)).count_le lineFeed
  rw [← position_line, ← position_line] at fewer
  rcases Nat.lt_or_eq_of_le fewer with earlier | same
  · exact Or.inl earlier
  · have start := starts_position_line bytes offset
    rw [same, starts_position_line bytes later] at start
    have whole := lastLineStart_add_column bytes offset
    have laterWhole := lastLineStart_add_column bytes later
    rw [Option.some.inj start] at laterWhole
    exact Or.inr ⟨same, by omega⟩

/-- The noted starts of the lines of a text ascend. For every offset, the line is the number of line
feeds among the bytes before it, and the column is the distance from the start of that line, which
is the beginning of the text or lies behind the last of these line feeds, and never behind the
offset. All starts lie within the text; line start and column give the offset back; a later offset
has a later position; and from the end of the text on, offsets are on the last line.
-/
theorem position_exact (source : String) (offset : Nat)
    : (LineMap.ofText source).starts.toList.Pairwise (· < ·)
      ∧ let bytes := source.toUTF8.data.toList
        let map := LineMap.ofText source
        let passed := bytes.take offset
        let position := map.position offset
        position.line = passed.count lineFeed
          ∧ map.starts[position.line]? = some (lastLineStart passed)
          ∧ lastLineStart passed ≤ offset
          ∧ position.column = offset - lastLineStart passed
          ∧ lastLineStart passed + position.column = offset
          ∧ (∀ start ∈ map.starts.toList, start ≤ bytes.length)
          ∧ (∀ later, offset < later → position.Precedes (map.position later))
          ∧ (bytes.length ≤ offset → position.line + 1 = map.lineCount) := by
  have starts : (LineMap.ofText source).starts.toList = lineStarts source.toUTF8.data.toList :=
    toList_starts source.toUTF8.data.toList
  refine ⟨starts ▸ pairwise_lineStarts _, ?_⟩
  intro bytes map passed position
  have whole : lastLineStart passed + position.column = offset :=
    lastLineStart_add_column bytes offset
  refine ⟨position_line bytes offset, starts_position_line bytes offset, by omega,
    position_column bytes offset, whole, ?_, fun later => position_precedes bytes, ?_⟩
  · rw [starts]
    exact fun start => le_length_of_mem_lineStarts
  · intro ended
    have line : position.line = passed.count lineFeed := position_line bytes offset
    have all : passed = bytes := List.take_of_length_le ended
    rw [lineCount, ← Array.length_toList, starts, length_lineStarts, line, all]

end LineMap

end PropertyLint
