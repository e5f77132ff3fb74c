import Std.Data.HashMap

/-! Interned names.

A name is stored once and passed around as its number. The number of the empty name is 0.
The interner keeps the relation in both directions: the array resolves a number, the map finds
the number of a text.
-/

namespace PropertyLint

/-- The number of an interned name. -/
abbrev Atom := Nat

/-- Names in order of first appearance, with the number of each. -/
structure Interner where
  names : Array String
  atoms : Std.HashMap String Atom

namespace Interner

/-- The interner that knows only the empty name. -/
def empty : Interner where
  names := #[""]
  atoms := (∅ : Std.HashMap String Atom).insert "" 0

instance : Inhabited Interner := ⟨empty⟩

/-- The number of distinct names, the empty one included. -/
def size (interner : Interner) : Nat :=
  interner.names.size

/-- Whether no name but the empty one has been interned. -/
def isEmpty (interner : Interner) : Bool :=
  interner.size ≤ 1

def lookup? (interner : Interner) (text : String) : Option Atom :=
  interner.atoms[text]?

/-- The text of an atom; a number that was never given out reads as the empty name. -/
def resolve (interner : Interner) (atom : Atom) : String :=
  interner.names.getD atom ""

/-- The number of `text`, which is the next free one when the text is new. -/
def intern (interner : Interner) (text : String) : Atom × Interner :=
  match interner.lookup? text with
  | some atom => (atom, interner)
  | none =>
    let atom := interner.size
    (atom, { names := interner.names.push text, atoms := interner.atoms.insert text atom })

/-- Interns the texts from left to right. -/
def internAll (interner : Interner) : List String → List Atom × Interner
  | [] => ([], interner)
  | text :: rest =>
    let (atom, interner) := interner.intern text
    let (atoms, interner) := interner.internAll rest
    (atom :: atoms, interner)

end Interner

end PropertyLint
