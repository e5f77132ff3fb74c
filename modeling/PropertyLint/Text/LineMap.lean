/-! Line and column positions of byte offsets.

A line map lists the offset at which each line starts. Only a line feed ends a line, and columns
count bytes. The line of an offset is found by bisection.
-/

namespace PropertyLint

/-- A line and a column, both counted from zero. -/
structure Position where
  line : Nat
  column : Nat
deriving DecidableEq, Repr

/-- The offsets at which the lines of a text start, in ascending order. -/
structure LineMap where
  starts : Array Nat := #[]
deriving Repr, Inhabited

namespace LineMap

/-- Passes over one byte: counts it, and notes the offset behind it if it is a line feed. -/
def passByte (state : Nat × Array Nat) (byte : UInt8) : Nat × Array Nat :=
  let next := state.1 + 1
  (next, if byte = 10 then state.2.push next else state.2)

/-- The start of line 0, then the offset behind each line feed. -/
def ofBytes (bytes : List UInt8) : LineMap :=
  ⟨(bytes.foldl passByte (0, #[0])).2⟩

def ofText (source : String) : LineMap :=
  ofBytes source.toUTF8.data.toList

/-- The number of lines. -/
def lineCount (map : LineMap) : Nat :=
  map.starts.size

/-- The index of the first entry of `starts` above `offset` among those from `low` up to `high`,
or `high` when there is none. The entries ascend, so the half that cannot hold it is dropped.
-/
def firstAbove (starts : Array Nat) (offset low high : Nat) : Nat :=
  if low < high then
    let middle := (low + high) / 2
    if starts.getD middle 0 ≤ offset then firstAbove starts offset (middle + 1) high
    else firstAbove starts offset low middle
  else low
termination_by high - low

/-- The position of an offset: the last line that starts at or before it, and the bytes since.
An offset past the end lies on the last line; without any line all offsets lie on line 0.
-/
def position (map : LineMap) (offset : Nat) : Position :=
  let line := firstAbove map.starts offset 0 map.starts.size - 1
  ⟨line, offset - map.starts.getD line 0⟩

end LineMap

end PropertyLint
