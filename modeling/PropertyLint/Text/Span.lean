/-! Byte ranges in a source file. -/

namespace PropertyLint

/-- The bytes from `start` up to, not including, `stop`.
Nothing keeps the end from lying before the start; such a span is empty.
-/
structure Span where
  start : Nat := 0
  stop : Nat := 0
deriving DecidableEq, Repr, Inhabited

namespace Span

def point (offset : Nat) : Span :=
  ⟨offset, offset⟩

/-- The number of bytes in the span. -/
def length (span : Span) : Nat :=
  span.stop - span.start

/-- Whether the span holds no byte. -/
def isEmpty (span : Span) : Bool :=
  span.stop ≤ span.start

end Span

end PropertyLint
