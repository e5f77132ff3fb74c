import PropertyLint.Text.CodePoints

/-! Sets of characters as ranges of code points. -/

namespace PropertyLint

/-- A set of characters: closed ranges of code points, ascending and apart from each other. -/
structure CharSet where
  ranges : List (Nat × Nat) := []
deriving DecidableEq, Repr, Inhabited

namespace CharSet

/-- Adds a range to ranges, as one with those that it touches. -/
def insertRange (low high : Nat) : List (Nat × Nat) → List (Nat × Nat)
  | [] => [(low, high)]
  | (first, last) :: rest =>
    if high + 1 < first then (low, high) :: (first, last) :: rest
    else if last + 1 < low then (first, last) :: insertRange low high rest
    else insertRange (min low first) (max high last) rest

/-- The ranges between ranges, from a code point on. -/
def gapsFrom (start : Nat) : List (Nat × Nat) → List (Nat × Nat)
  | [] => if start ≤ 0x10FFFF then [(start, 0x10FFFF)] else []
  | (first, last) :: rest =>
    if start < first then (start, first - 1) :: gapsFrom (last + 1) rest
    else gapsFrom (last + 1) rest

/-- The set without members. -/
def empty : CharSet := ⟨[]⟩

/-- Whether the set has no members. -/
def isEmpty (set : CharSet) : Bool :=
  set.ranges.isEmpty

/-- The characters from one to another. -/
def range (low high : Char) : CharSet :=
  ⟨[(low.toNat, high.toNat)]⟩

def single (c : Char) : CharSet :=
  range c c

def contains (set : CharSet) (c : Char) : Bool :=
  set.ranges.any fun (low, high) => low ≤ c.toNat && c.toNat ≤ high

def union (left right : CharSet) : CharSet :=
  ⟨right.ranges.foldl (fun ranges (low, high) => insertRange low high ranges) left.ranges⟩

def complement (set : CharSet) : CharSet :=
  ⟨gapsFrom 0 set.ranges⟩

/-- The characters in both sets. -/
def intersection (left right : CharSet) : CharSet :=
  (left.complement.union right.complement).complement

def difference (left right : CharSet) : CharSet :=
  left.intersection right.complement

/-- The characters in one of the sets only. -/
def symmetricDifference (left right : CharSet) : CharSet :=
  (left.union right).difference (left.intersection right)

/-- The union of ranges. -/
def ofRanges (ranges : List (Char × Char)) : CharSet :=
  ranges.foldl (fun set (low, high) => set.union (range low high)) empty

/-- The letters of ASCII in the set, moved by a function. -/
def movedLetters (set : CharSet) (low high : Char) (move : Nat → Nat) : CharSet :=
  ⟨(set.intersection (range low high)).ranges.map fun (first, last) => (move first, move last)⟩

/-- The set with the letters of ASCII that differ from a member in case only. -/
def withBothCases (set : CharSet) : CharSet :=
  (set.union (set.movedLetters 'A' 'Z' (· + 32))).union (set.movedLetters 'a' 'z' (· - 32))

/-- The digits of ASCII. -/
def digits : CharSet := range '0' '9'

/-- The blanks of ASCII. -/
def blanks : CharSet := ofRanges [('\t', '\r'), (' ', ' ')]

/-- The letters and digits of ASCII, and the low line. -/
def wordCharacters : CharSet := ofRanges [('0', '9'), ('A', 'Z'), ('_', '_'), ('a', 'z')]

def ofClassName? : String → Option CharSet
  | "alnum" => some (ofRanges [('0', '9'), ('A', 'Z'), ('a', 'z')])
  | "alpha" => some (ofRanges [('A', 'Z'), ('a', 'z')])
  | "ascii" => some (range '\x00' '\x7f')
  | "blank" => some (ofRanges [('\t', '\t'), (' ', ' ')])
  | "cntrl" => some (ofRanges [('\x00', '\x1f'), ('\x7f', '\x7f')])
  | "digit" => some digits
  | "graph" => some (range '!' '~')
  | "lower" => some (range 'a' 'z')
  | "print" => some (range ' ' '~')
  | "punct" => some (ofRanges [('!', '/'), (':', '@'), ('[', '\x60'), ('\x7b', '~')])
  | "space" => some blanks
  | "upper" => some (range 'A' 'Z')
  | "word" => some wordCharacters
  | "xdigit" => some (ofRanges [('0', '9'), ('A', 'F'), ('a', 'f')])
  | _ => none

end CharSet

end PropertyLint
