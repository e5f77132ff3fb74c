import Mathlib.Data.List.Basic
import PropertyLint.Proofs.Text.InternerRelation

/-! Atoms number the texts of a program in the order of their first appearance.
Whatever is interned, and however often, the names of the interner are the empty name and the
distinct texts, each at the place where it first came up. Atoms are their places in this list.
-/

namespace PropertyLint.Interner

variable {interner : Interner} {text : String} {atom : Atom}

/-- Texts can be interned in two parts. -/
theorem internAll_append (interner : Interner) (first second : List String)
    : interner.internAll (first ++ second)
      = ((interner.internAll first).1 ++ ((interner.internAll first).2.internAll second).1,
          ((interner.internAll first).2.internAll second).2) := by
  induction first generalizing interner with
  | nil => rfl
  | cons text rest ih => simp [internAll, ih]

/-- An interner knows the texts among its names, and no others. -/
theorem Consistent.lookup?_eq_none_iff (consistent : interner.Consistent)
    : interner.lookup? text = none ↔ text ∉ interner.names.toList := by
  rw [Option.eq_none_iff_forall_ne_some, Array.mem_toList_iff, Array.mem_iff_getElem?, not_exists]
  exact forall_congr' fun atom => not_congr (consistent text atom)

/-- The atom of a text is its first place among the names. -/
theorem Consistent.atom_eq_idxOf (consistent : interner.Consistent)
    (known : interner.names[atom]? = some text)
    : atom = interner.names.toList.idxOf text := by
  have member : text ∈ interner.names.toList :=
    Array.mem_toList_iff.mpr (Array.mem_of_getElem? known)
  have first : interner.names[interner.names.toList.idxOf text]? = some text := by
    rw [← Array.getElem?_toList]
    exact List.getElem?_idxOf member
  have found := (consistent text atom).mpr known
  rw [(consistent text _).mpr first] at found
  exact (Option.some.inj found).symm

/-- Atoms that stand for texts are the places of the texts among the names. -/
theorem Names.eq_map_idxOf {atoms : List Atom} {texts : List String}
    (names : interner.Names atoms texts) (consistent : interner.Consistent)
    : atoms = texts.map fun text => interner.names.toList.idxOf text := by
  induction atoms generalizing texts with
  | nil => simpa [Names] using names
  | cons atom rest ih =>
      cases texts with
      | nil => simp [Names] at names
      | cons text texts =>
          simp only [Names, List.map_cons, List.cons.injEq] at names ⊢
          exact ⟨consistent.atom_eq_idxOf names.1, ih names.2⟩

/-- A text is found under the one atom that reads as the text. -/
theorem Consistent.lookup?_eq_some_iff (consistent : interner.Consistent)
    : interner.lookup? text = some atom ↔ atom < interner.size ∧ interner.resolve atom = text := by
  rw [consistent, Array.getElem?_eq_some_iff]
  constructor
  · rintro ⟨known, read⟩
    exact ⟨known, by rw [resolve, Array.getD_eq_getD_getElem?, Array.getElem?_eq_getElem known,
      Option.getD_some, read]⟩
  · rintro ⟨known, read⟩
    rw [resolve, Array.getD_eq_getD_getElem?, Array.getElem?_eq_getElem known,
      Option.getD_some] at read
    exact ⟨known, read⟩

/-- The names after some texts are the earlier ones and behind them the new texts, each where it
first appears, by induction on the texts.
-/
theorem Consistent.names_internAll (consistent : interner.Consistent) (texts : List String)
    : (interner.internAll texts).2.names.toList
      = interner.names.toList ++ (texts.removeAll interner.names.toList).eraseDups := by
  induction texts generalizing interner with
  | nil => simp [Interner.internAll]
  | cons text rest ih =>
      rw [Interner.internAll, ih (consistent.intern text), List.cons_removeAll, Interner.intern]
      cases found : interner.lookup? text with
      | some atom =>
          have old : text ∈ interner.names.toList := by
            refine Classical.not_not.mp fun new => ?_
            rw [consistent.lookup?_eq_none_iff.mpr new] at found
            cases found
          simp [old]
      | none =>
          have new : text ∉ interner.names.toList := consistent.lookup?_eq_none_iff.mp found
          have others : rest.removeAll (interner.names.toList ++ [text])
              = (rest.removeAll interner.names.toList).filter (· ≠ text) := by
            simp [List.removeAll, List.filter_filter, Bool.and_comm]
          simp [new, others, List.eraseDups_cons, beq_eq_decide]

-----------------------------------------------------------------------------------------
-- Runs that start with the empty interner
-----------------------------------------------------------------------------------------

/-- The empty name and the distinct texts, each where it first appears. -/
def firstAppearances (texts : List String) : List String :=
  ("" :: texts).eraseDups

/-- The atoms that the texts get when they are interned one after the other. -/
def atomsOf (texts : List String) : List Atom :=
  (empty.internAll texts).1

/-- The interner in which the texts have been interned one after the other. -/
def ofTexts (texts : List String) : Interner :=
  (empty.internAll texts).2

theorem ofTexts_consistent (texts : List String) : (ofTexts texts).Consistent :=
  empty_consistent.internAll texts

theorem names_ofTexts (texts : List String)
    : (ofTexts texts).names.toList = firstAppearances texts := by
  have others : texts.removeAll [""] = texts.filter fun text => !text == "" := by
    simp [List.removeAll, beq_eq_decide]
  rw [ofTexts, empty_consistent.names_internAll, firstAppearances, List.eraseDups_cons, ← others]
  rfl

/-- Later texts only append names. -/
theorem ofTexts_extends (earlier later : List String)
    : Extends (ofTexts earlier) (ofTexts (earlier ++ later)) := by
  rw [ofTexts, ofTexts, internAll_append]
  exact internAll_extends _ later

/-- The atoms of the texts still stand for them after later texts. -/
theorem names_atomsOf (earlier later : List String)
    : (ofTexts (earlier ++ later)).Names (atomsOf earlier) earlier :=
  (empty_consistent.internAll_names earlier).extend (ofTexts_extends earlier later)

/-- The texts get their places in the list of first appearances. -/
theorem atomsOf_eq (texts : List String)
    : atomsOf texts = texts.map fun text => (firstAppearances texts).idxOf text := by
  have names : (ofTexts texts).Names (atomsOf texts) texts := empty_consistent.internAll_names texts
  rw [← names_ofTexts]
  exact names.eq_map_idxOf (ofTexts_consistent texts)

/-- Two of the texts get the same atom exactly when they are the same. -/
theorem atomsOf_getElem?_inj {texts : List String} {first second : String} {index other : Nat}
    (here : texts[index]? = some first) (there : texts[other]? = some second)
    : (atomsOf texts)[index]? = (atomsOf texts)[other]? ↔ first = second := by
  have member : first ∈ firstAppearances texts :=
    List.mem_eraseDups.mpr (List.mem_cons_of_mem _ (List.mem_of_getElem? here))
  rw [atomsOf_eq, List.getElem?_map, List.getElem?_map, here, there, Option.map_some,
    Option.map_some, Option.some.injEq, List.idxOf_inj member]

/-- The atoms are those of the texts and that of the empty name: each of the names is one of them.
-/
theorem lt_size_ofTexts_iff (texts : List String) (atom : Atom)
    : atom < (ofTexts texts).size ↔ atom = 0 ∨ atom ∈ atomsOf texts := by
  have names : (ofTexts texts).Names (atomsOf texts) texts := empty_consistent.internAll_names texts
  constructor
  · intro known
    have found : (ofTexts texts).names[atom]? = some (ofTexts texts).names[atom] :=
      Array.getElem?_eq_getElem known
    have place := (ofTexts_consistent texts).atom_eq_idxOf found
    have member : (ofTexts texts).names[atom] ∈ firstAppearances texts :=
      names_ofTexts texts ▸ Array.getElem_mem_toList known
    rw [names_ofTexts] at place
    rcases List.mem_cons.mp (List.mem_eraseDups.mp member) with blank | member
    · left
      rw [place, blank, firstAppearances, List.eraseDups_cons, List.idxOf_cons_self]
    · right
      rw [atomsOf_eq]
      exact List.mem_map.mpr ⟨_, member, place.symm⟩
  · rintro (rfl | member)
    · exact (ofTexts_extends [] texts).lt_size Nat.one_pos
    · exact names.lt_size atom member

/-- Texts are interned from the empty interner on, first the earlier and then the later ones. The
names are then the first appearances, and every text has got its place among them, so that the
atoms are the numbers below the size, and the empty name is 0. The atoms of the earlier texts still
resolve to them. Two texts have got the same atom exactly when they are the same; a text is found
under the atom that resolves to it and under no other; and the later texts have not changed what any
atom resolves to.
-/
theorem atoms_number_first_appearances (earlier later : List String)
    : (ofTexts (earlier ++ later)).names.toList = firstAppearances (earlier ++ later)
      ∧ atomsOf (earlier ++ later)
        = (earlier ++ later).map (fun text => (firstAppearances (earlier ++ later)).idxOf text)
      ∧ (∀ atom,
          atom < (ofTexts (earlier ++ later)).size
          ↔ atom = 0 ∨ atom ∈ atomsOf (earlier ++ later))
      ∧ ((ofTexts (earlier ++ later)).intern "").1 = 0
      ∧ (atomsOf earlier).map (ofTexts (earlier ++ later)).resolve = earlier
      ∧ (∀ (index other : Nat) (first second : String),
          (earlier ++ later)[index]? = some first
          → (earlier ++ later)[other]? = some second
          → ((atomsOf (earlier ++ later))[index]? = (atomsOf (earlier ++ later))[other]?
              ↔ first = second))
      ∧ (∀ text atom,
          (ofTexts (earlier ++ later)).lookup? text = some atom
          ↔ atom < (ofTexts (earlier ++ later)).size
            ∧ (ofTexts (earlier ++ later)).resolve atom = text)
      ∧ ∀ atom < (ofTexts earlier).size,
          (ofTexts (earlier ++ later)).resolve atom = (ofTexts earlier).resolve atom := by
  have consistent := ofTexts_consistent (earlier ++ later)
  have blank : (ofTexts (earlier ++ later)).names[0]? = some "" :=
    ofTexts_extends [] (earlier ++ later) 0 "" rfl
  refine ⟨names_ofTexts _, atomsOf_eq _, lt_size_ofTexts_iff _, ?_,
    (names_atomsOf earlier later).resolve, ?_, ?_, ?_⟩
  · rw [consistent.intern_known blank]
  · intro index other first second here there
    exact atomsOf_getElem?_inj here there
  · intro text atom
    exact consistent.lookup?_eq_some_iff
  · intro atom known
    exact (ofTexts_extends earlier later).resolve known

end PropertyLint.Interner
