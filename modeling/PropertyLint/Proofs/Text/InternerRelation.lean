import PropertyLint.Proofs.Text.Numbering
import PropertyLint.Text.Interner

/-! The two directions of an interner agree, and growth keeps the text of every atom.
Both facts hold after any number of interned texts, whether they were new or not.
-/

namespace PropertyLint.Interner

/-- The map finds an atom for a text exactly when the array resolves that atom to the text. -/
def Consistent (interner : Interner) : Prop :=
  ∀ (text : String) (atom : Atom),
    interner.lookup? text = some atom ↔ interner.names[atom]? = some text

/-- Every atom of `before` stands for the same text in `after`. -/
def Extends (before after : Interner) : Prop :=
  ∀ (atom : Atom) (text : String),
    before.names[atom]? = some text → after.names[atom]? = some text

/-- The atoms stand for the texts, one by one. -/
def Names (interner : Interner) (atoms : List Atom) (texts : List String) : Prop :=
  atoms.map (interner.names[·]?) = texts.map some

theorem Extends.refl (interner : Interner) : Extends interner interner :=
  fun _ _ known => known

theorem Extends.trans {before middle after : Interner}
    (first : Extends before middle) (second : Extends middle after)
    : Extends before after :=
  fun atom text known => second atom text (first atom text known)

/-- An atom that has been given out still exists after growth. -/
theorem Extends.lt_size {before after : Interner} (grown : Extends before after)
    {atom : Atom} (known : atom < before.size)
    : atom < after.size := by
  have found : before.names[atom]? = some before.names[atom] := Array.getElem?_eq_getElem known
  exact (Array.getElem?_eq_some_iff.mp (grown atom _ found)).1

/-- An atom that has been given out reads the same after growth. -/
theorem Extends.resolve {before after : Interner} (grown : Extends before after)
    {atom : Atom} (known : atom < before.size)
    : after.resolve atom = before.resolve atom := by
  have found : before.names[atom]? = some before.names[atom] := Array.getElem?_eq_getElem known
  simp only [Interner.resolve, Array.getD_eq_getD_getElem?, grown _ _ found, found]

/-- Atoms that stand for texts still do so after growth. -/
theorem Names.extend {before after : Interner} {atoms : List Atom} {texts : List String}
    (names : before.Names atoms texts) (grown : Extends before after)
    : after.Names atoms texts := by
  induction atoms generalizing texts with
  | nil => exact names
  | cons atom rest ih =>
      cases texts with
      | nil => simp [Names] at names
      | cons text texts =>
          simp only [Names, List.map_cons, List.cons.injEq] at names ⊢
          exact ⟨grown atom text names.1, ih names.2⟩

/-- Atoms that stand for texts have been given out. -/
theorem Names.lt_size {interner : Interner} {atoms : List Atom} {texts : List String}
    (names : interner.Names atoms texts)
    : ∀ atom ∈ atoms, atom < interner.size := by
  intro atom member
  have found : interner.names[atom]? ∈ texts.map some :=
    names ▸ List.mem_map_of_mem member
  obtain ⟨text, _, same⟩ := List.mem_map.mp found
  exact (Array.getElem?_eq_some_iff.mp same.symm).1

/-- Atoms that stand for texts resolve to them. -/
theorem Names.resolve {interner : Interner} {atoms : List Atom} {texts : List String}
    (names : interner.Names atoms texts)
    : atoms.map interner.resolve = texts := by
  induction atoms generalizing texts with
  | nil => simpa [Names] using names
  | cons atom rest ih =>
      cases texts with
      | nil => simp [Names] at names
      | cons text texts =>
          simp only [Names, List.map_cons, List.cons.injEq] at names
          simp [ih names.2, Interner.resolve, Array.getD_eq_getD_getElem?, names.1]

/-- The empty name alone is consistent: it is the only key and the only entry. -/
theorem empty_consistent : Consistent .empty := by
  intro text atom
  by_cases same : text = ""
  · cases atom <;> simp [lookup?, Interner.empty, same]
  · cases atom <;> simp [lookup?, Interner.empty, Ne.symm same]

/-- Interning a text only appends. -/
theorem intern_extends (interner : Interner) (text : String)
    : Extends interner (interner.intern text).2 := by
  intro atom old known
  unfold intern
  split
  · exact known
  · have old := (Array.getElem?_eq_some_iff.mp known).1
    simp [Array.getElem?_push, known, Nat.ne_of_lt old]

/-- Interning keeps the two directions in step: a new text takes a fresh atom in both. -/
theorem Consistent.intern {interner : Interner} (consistent : interner.Consistent)
    (text : String)
    : (interner.intern text).2.Consistent := by
  unfold Interner.intern
  split
  · exact consistent
  · rename_i absent
    exact Numbered.push consistent absent

/-- A text that has an atom already gets it again, and nothing changes. -/
theorem Consistent.intern_known {interner : Interner} (consistent : interner.Consistent)
    {text : String} {atom : Atom} (known : interner.names[atom]? = some text)
    : interner.intern text = (atom, interner) := by
  rw [Interner.intern, (consistent text atom).mpr known]

/-- Atoms that read the same are the same. -/
theorem Consistent.eq_of_resolve {interner : Interner} (consistent : interner.Consistent)
    {atom other : Atom} (known : atom < interner.size) (otherKnown : other < interner.size)
    (same : interner.resolve atom = interner.resolve other)
    : atom = other := by
  have found : interner.names[atom]? = some interner.names[atom] := Array.getElem?_eq_getElem known
  have otherFound : interner.names[other]? = some interner.names[other] :=
    Array.getElem?_eq_getElem otherKnown
  simp only [Interner.resolve, Array.getD_eq_getD_getElem?, found, otherFound, Option.getD_some]
    at same
  have first := (consistent _ _).mpr found
  rw [same, (consistent _ _).mpr otherFound] at first
  exact (Option.some.inj first).symm

/-- The atom of a text stands for the text. -/
theorem Consistent.intern_names {interner : Interner} (consistent : interner.Consistent)
    (text : String)
    : (interner.intern text).2.names[(interner.intern text).1]? = some text := by
  unfold Interner.intern
  split
  · rename_i atom found
    exact (consistent text atom).mp found
  · simp [size]

theorem Consistent.intern_lt_size {interner : Interner} (consistent : interner.Consistent)
    (text : String)
    : (interner.intern text).1 < (interner.intern text).2.size :=
  (Array.getElem?_eq_some_iff.mp (consistent.intern_names text)).1

/-- Interning several texts only appends, by induction on the texts. -/
theorem internAll_extends (interner : Interner) (texts : List String)
    : Extends interner (interner.internAll texts).2 := by
  induction texts generalizing interner with
  | nil => exact .refl interner
  | cons text rest ih => exact (interner.intern_extends text).trans (ih _)

/-- Interning several texts keeps the two directions in step, by induction on the texts. -/
theorem Consistent.internAll {interner : Interner} (consistent : interner.Consistent)
    (texts : List String)
    : (interner.internAll texts).2.Consistent := by
  induction texts generalizing interner with
  | nil => exact consistent
  | cons text rest ih => exact ih (consistent.intern text)

/-- The atoms of several texts stand for them: the later texts keep the earlier atoms. -/
theorem Consistent.internAll_names {interner : Interner} (consistent : interner.Consistent)
    (texts : List String)
    : (interner.internAll texts).2.Names (interner.internAll texts).1 texts := by
  induction texts generalizing interner with
  | nil => rfl
  | cons text rest ih =>
      have first := consistent.intern_names text
      have kept := (interner.intern text).2.internAll_extends rest _ _ first
      simpa only [Names, Interner.internAll, List.map_cons, List.cons.injEq]
        using ⟨kept, ih (consistent.intern text)⟩

end PropertyLint.Interner
