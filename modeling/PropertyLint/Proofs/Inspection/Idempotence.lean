import Mathlib.Tactic.IntervalCases
import PropertyLint.Proofs.Forest.Remnants
import PropertyLint.Proofs.Inspection.Staleness
import PropertyLint.Proofs.TypeExpr.RoundTrip

/-! Applying a fix twice is applying it once.
After a fix has been applied the declaration is found again and is printed with the text that the
fix asks for. Texts are compared, not types; as no two types are spelled alike, a fix finds its work
done exactly when the written type is the one that it asks for.
-/

namespace PropertyLint

open Forest (Annotates Crafted Declarable SameOutline)

variable {forest before after : Forest} {problem : Problem} {fix : TypeFix} {id : NodeId}

-----------------------------------------------------------------------------------------
-- Applying a fix again
-----------------------------------------------------------------------------------------

/-- A declaration is found again in a forest of the same outline, if it still is a property. -/
theorem Problem.declaration?_of_sameOutline (same : SameOutline before after)
    (coherent : before.Coherent) (layered : before.Layered)
    (found : problem.declaration? before = some id) {data : PropertyData}
    (property : after.property? (some id) = some data)
    : problem.declaration? after = some id := by
  obtain ⟨node, old, oldProperty⟩ := Problem.declaration?_eq_some found
  have names := same.declarationName? coherent oldProperty
  have scope := same.scope? coherent layered (some id)
  unfold Problem.declaration? at found ⊢
  rw [node] at found ⊢
  rw [property, scope, names]
  rw [oldProperty] at found
  exact found

/-- A fix that has been applied finds its type written. -/
theorem TypeFix.apply_again (coherent : forest.Coherent) (layered : forest.Layered)
    {outcome : FixOutcome} (applied : fix.apply problem forest = (.ok outcome, after))
    : fix.apply problem after = (.ok .alreadyPresent, after) := by
  obtain ⟨id, expr, found, valid, ⟨rfl, present⟩ | annotates⟩ := apply_ok coherent layered applied
  · exact apply_present found valid present
  · obtain ⟨data, property⟩ := annotates.carries.exists_property
    have standing :=
      Problem.declaration?_of_sameOutline annotates.outline coherent layered found property
    exact apply_present standing valid (annotates.carries.propertyTypeText? annotates.coherent)

-----------------------------------------------------------------------------------------
-- Texts stand for types
-----------------------------------------------------------------------------------------

/-- A fix finds its type written exactly when the texts agree. -/
theorem TypeFix.apply_alreadyPresent_iff
    : (fix.apply problem forest).1 = .ok .alreadyPresent
      ↔ ∃ id expr,
          problem.declaration? forest = some id
          ∧ TypeExpr.parse fix.typeText = .ok expr
          ∧ forest.propertyTypeText? (some id) = some expr.spelling := by
  constructor
  · intro already
    obtain ⟨id, expr, found, valid, ⟨_, _, present⟩ | ⟨written, _⟩⟩ :=
      apply_ok_cases (Prod.ext already rfl)
    · exact ⟨id, expr, found, valid, present⟩
    · cases written
  · rintro ⟨id, expr, found, valid, present⟩
    rw [apply_present found valid present]

/-- What is read back from an annotation that was made from a text is what the text was read as. -/
theorem Forest.Crafted.read_back {rule : Forest.ParentRule} {made : List (NodeId × TypeExpr)}
    (crafted : Crafted rule made forest) {data : PropertyData}
    (property : forest.property? (some id) = some data)
    (written
      : ∀ type,
          data.typeSlot = some type
          → ∃ text expr, TypeExpr.parse text = .ok expr ∧ (type, expr) ∈ made)
    {read : TypeExpr} (found : forest.propertyTypeExpr? (some id) = some read)
    : ∃ text, TypeExpr.parse text = .ok read := by
  rw [Forest.propertyTypeExpr?, property, Option.bind_some] at found
  cases slot : data.typeSlot with
  | none =>
      rw [slot, Forest.typeExpr?_none] at found
      cases found
  | some type =>
      obtain ⟨text, expr, valid, member⟩ := written type slot
      rw [slot] at found
      obtain rfl := (crafted.remains member).eq_of_read found
      exact ⟨text, valid⟩

/-- In every forest whose declarations stand below no type reference, a fix that has been applied
finds its type written when it is applied again, and changes nothing then. Where every annotation
has been made from a text, a fix finds its type written exactly when the annotation of the
declaration, read back as an expression, is what the text of the fix is read as.
-/
theorem fixes_idempotent {made : List (NodeId × TypeExpr)}
    (crafted : Crafted Declarable made forest) (problem : Problem) (fix : TypeFix)
    : (∀ outcome after,
        fix.apply problem forest = (.ok outcome, after)
        → fix.apply problem after = (.ok .alreadyPresent, after))
      ∧ ((∀ id data type,
            forest.property? (some id) = some data
            → data.typeSlot = some type
            → ∃ text expr, TypeExpr.parse text = .ok expr ∧ (type, expr) ∈ made)
          → ((fix.apply problem forest).1 = .ok .alreadyPresent
              ↔ ∃ id expr,
                  problem.declaration? forest = some id
                  ∧ TypeExpr.parse fix.typeText = .ok expr
                  ∧ forest.propertyTypeExpr? (some id) = some expr)) := by
  obtain ⟨coherent, layered⟩ :=
    Forest.reachable_sound (Forest.reachable_iff_crafted.mpr ⟨made, crafted⟩)
  refine ⟨fun outcome after applied => TypeFix.apply_again coherent layered applied, ?_⟩
  intro written
  rw [TypeFix.apply_alreadyPresent_iff]
  constructor
  · rintro ⟨id, expr, found, valid, text⟩
    rw [Forest.propertyTypeText?_eq] at text
    obtain ⟨read, readBack, spelled⟩ := Option.map_eq_some_iff.mp text
    obtain ⟨_, data, property⟩ := Problem.declaration?_eq_some found
    obtain ⟨source, sourceValid⟩ :=
      crafted.read_back property (fun type slot => written id data type property slot) readBack
    obtain ⟨readNamed, readType⟩ := TypeExpr.wellNamed_of_parse sourceValid
    obtain ⟨exprNamed, exprType⟩ := TypeExpr.wellNamed_of_parse valid
    obtain rfl := readNamed.eq_of_spelling readType exprNamed exprType spelled
    exact ⟨id, read, found, valid, readBack⟩
  · rintro ⟨id, expr, found, valid, readBack⟩
    refine ⟨id, expr, found, valid, ?_⟩
    rw [Forest.propertyTypeText?_eq, readBack, Option.map_some]

/-- The types that were made for the sample shelf. The first one has been replaced. -/
def shelfTypes : List (NodeId × TypeExpr) :=
  [(2, .named ["List"] [] false), (3, .named ["Set"] [] true)]

theorem shelf_crafted : Crafted Declarable shelfTypes shelf := by
  have declarable : Declarable (Forest.empty.addSourceFile "Shelf.kt" {}).2 (some 0) :=
    Forest.declarable_some Nat.zero_lt_one rfl
  have file : Crafted Declarable [] (Forest.empty.addSourceFile "Shelf.kt" {}).2 :=
    .step .empty (.addSourceFile "Shelf.kt" {}) Forest.declarable_none
  have property := file.step (.addProperty (some 0) "books" false {} {}) declarable
  have typed := (property.step (.addType (.named ["List"] [] false)) Forest.declarable_none).step
    (.attachType (some 1) (some 2)) Forest.declarable_none
  have retyped := (typed.step (.addType (.named ["Set"] [] true)) Forest.declarable_none).step
    (.attachType (some 1) (some 3)) Forest.declarable_none
  have first : Declarable Forest.retyped (some 0) :=
    Forest.declarable_some (by cbv) (by cbv)
  have owner := retyped.step (.addProperty (some 0) "owner" false {} {}) first
  exact owner.step (.addProperty (some 0) "size" true {} {})
    (Forest.declarable_some (by cbv) (by cbv))

/-- The only annotation on the sample shelf can be read from its spelling. -/
theorem shelf_written (id : NodeId) (data : PropertyData) (type : NodeId)
    (property : shelf.property? (some id) = some data) (filled : data.typeSlot = some type)
    : ∃ text expr, TypeExpr.parse text = .ok expr ∧ (type, expr) ∈ shelfTypes := by
  have size : shelf.size = 6 := by cbv
  have slots : ∀ id < 6,
      (shelf.property? (some id)).bind PropertyData.typeSlot
        = if id = 1 then some 3 else none := by
    intro id known
    interval_cases id <;> cbv
  have slot := slots id (size ▸ Forest.property?_lt_size property)
  rw [property, Option.bind_some, filled] at slot
  obtain rfl : type = 3 := by
    split at slot
    · exact Option.some.inj slot
    · cases slot
  have named : TypeExpr.WellNamed (.named ["Set"] [] true) := ⟨by decide +kernel, trivial⟩
  have member : (3, .named ["Set"] [] true) ∈ shelfTypes :=
    List.mem_cons_of_mem _ (List.mem_singleton_self _)
  exact ⟨_, _, named.parse_spelling (by simp) (by decide), member⟩

set_option maxRecDepth 10000 in
/-- On the sample shelf the books have the type already that a fix spells with a blank, and not the
one that another fix asks for. The owner's type is written once.
-/
theorem shelf_fixes_idempotent
    : Crafted Declarable shelfTypes shelf
      ∧ (TypeFix.apply ⟨"Set ?"⟩ (untyped 1 "books") shelf).1 = .ok .alreadyPresent
      ∧ (TypeFix.apply ⟨"Set"⟩ (untyped 1 "books") shelf).1 ≠ .ok .alreadyPresent
      ∧ ∃ after,
          TypeFix.apply ⟨"Id?"⟩ (untyped 4 "owner") shelf = (.ok (.applied 6), after)
          ∧ TypeFix.apply ⟨"Id?"⟩ (untyped 4 "owner") after = (.ok .alreadyPresent, after) := by
  have spaced : TypeExpr.parse "Set ?" = .ok (.named ["Set"] [] true) := by with_unfolding_all rfl
  have plain : TypeExpr.parse "Set" = .ok (.named ["Set"] [] false) := by with_unfolding_all rfl
  have id : TypeExpr.parse "Id?" = .ok (.named ["Id"] [] true) := by with_unfolding_all rfl
  have found : (untyped 1 "books").declaration? shelf = some 1 := by cbv
  have books : shelf.propertyTypeExpr? (some 1) = some (.named ["Set"] [] true) := by cbv
  have present := (fixes_idempotent shelf_crafted (untyped 1 "books") ⟨"Set ?"⟩).2 shelf_written
  have other := (fixes_idempotent shelf_crafted (untyped 1 "books") ⟨"Set"⟩).2 shelf_written
  have owner : (untyped 4 "owner").declaration? shelf = some 4 := by cbv
  have first : (TypeFix.apply ⟨"Id?"⟩ (untyped 4 "owner") shelf).1 = .ok (.applied 6) := by
    simp only [TypeFix.apply, owner, id]
    with_unfolding_all rfl
  refine ⟨shelf_crafted, present.mpr ⟨1, _, found, spaced, books⟩, ?_, _, Prod.ext first rfl, ?_⟩
  · rw [Ne, other]
    rintro ⟨id, expr, same, valid, written⟩
    obtain rfl := Option.some.inj (found.symm.trans same)
    rw [books] at written
    rw [plain] at valid
    cases valid
    cases written
  · exact (fixes_idempotent shelf_crafted (untyped 4 "owner") ⟨"Id?"⟩).1 _ _ (Prod.ext first rfl)

end PropertyLint
