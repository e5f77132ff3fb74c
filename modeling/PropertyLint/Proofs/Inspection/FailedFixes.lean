import PropertyLint.Proofs.Forest.FreshAttachment
import PropertyLint.Proofs.Inspection.FixRuns

/-! A fix that fails leaves the forest as it was.
The declaration and the text are checked before anything is made, and what is made then is never
refused, so that nothing ever has to be taken back. This holds of every forest, however its nodes
are linked.
-/

namespace PropertyLint

/-- The error with which inserting the type fails, if it does. -/
inductive TypeFix.Fails (fix : TypeFix) (problem : Problem) (forest : Forest) : FixError → Prop
  /-- The declaration is not found again. -/
  | stale (gone : problem.declaration? forest = none)
    : Fails fix problem forest (.staleDeclaration problem.declarationName)
  /-- The declaration is found, and the text is no type. -/
  | invalid {source} (found : problem.declaration? forest ≠ none)
    (unread : TypeExpr.parse fix.typeText = .error source)
    : Fails fix problem forest (.invalidType fix.typeText source)

/-- The error with which the fix at an index fails, if it does. -/
inductive Problem.Fails (problem : Problem) (index : Nat) (forest : Forest) : FixError → Prop
  /-- The problem has no fix there. -/
  | missing (outside : problem.fixes.length ≤ index)
    : Fails problem index forest (.noSuchFix index problem.fixes.length)
  | chosen {fix error} (listed : problem.fixes[index]? = some fix)
    (fails : fix.Fails problem forest error)
    : Fails problem index forest error

variable {forest : Forest} {problem : Problem} {fix : TypeFix} {error : FixError} {id : NodeId}

/-- Once the declaration is found, the type that is made for it is never refused. -/
theorem Problem.attachType_isDone (found : problem.declaration? forest = some id) (expr : TypeExpr)
    : let grown := forest.addType expr
      (grown.2.attachType (some id) (some grown.1)).1.isDone := by
  obtain ⟨_, data, property⟩ := Problem.declaration?_eq_some found
  exact Forest.attachType_addType_isDone property expr

/-- An attempt fails as described and leaves the forest as it was, or nothing is to be described and
it succeeds.
-/
theorem TypeFix.apply_or_fails (fix : TypeFix) (problem : Problem) (forest : Forest)
    : (∃ error, fix.apply problem forest = (.error error, forest) ∧ fix.Fails problem forest error)
      ∨ (∃ outcome, (fix.apply problem forest).1 = .ok outcome)
        ∧ ∀ error, ¬ fix.Fails problem forest error := by
  cases found : problem.declaration? forest with
  | none => exact Or.inl ⟨_, by simp [apply, found], .stale found⟩
  | some id =>
      have standing : problem.declaration? forest ≠ none := by simp [found]
      cases read : TypeExpr.parse fix.typeText with
      | error source => exact Or.inl ⟨_, apply_invalid found read, .invalid standing read⟩
      | ok expr =>
          refine Or.inr ⟨?_, fun error fails => ?_⟩
          · by_cases present : forest.propertyTypeText? (some id) = some expr.spelling
            · exact ⟨.alreadyPresent, by rw [apply_present found read present]⟩
            · have done := problem.attachType_isDone found expr
              exact ⟨.applied (forest.addType expr).1, by simp [apply, found, read, present, done]⟩
          · cases fails with
            | stale gone => exact standing gone
            | invalid _ unread => cases read.symm.trans unread

/-- At most one error describes a failure. -/
theorem TypeFix.Fails.unique {other : FixError} (fails : fix.Fails problem forest error)
    (otherFails : fix.Fails problem forest other)
    : error = other := by
  cases fails with
  | stale gone =>
      cases otherFails with
      | stale _ => rfl
      | invalid found _ => exact absurd gone found
  | invalid found unread =>
      cases otherFails with
      | stale gone => exact absurd gone found
      | invalid _ otherUnread =>
          obtain rfl := Except.error.inj (unread.symm.trans otherUnread)
          rfl

/-- An attempt fails with exactly the error that describes the failure, and changes nothing then. -/
theorem TypeFix.apply_eq_error_iff {after : Forest}
    : fix.apply problem forest = (.error error, after)
      ↔ fix.Fails problem forest error ∧ after = forest := by
  rcases fix.apply_or_fails problem forest with
    ⟨failure, applied, fails⟩ | ⟨⟨outcome, applied⟩, sound⟩
  · rw [applied]
    constructor
    · rintro same
      obtain ⟨rfl, rfl⟩ : failure = error ∧ forest = after := by simpa using same
      exact ⟨fails, rfl⟩
    · rintro ⟨described, rfl⟩
      rw [fails.unique described]
  · constructor
    · intro same
      rw [same] at applied
      cases applied
    · intro given
      exact absurd given.1 (sound error)

theorem Problem.applyFix_eq_error_iff {index : Nat} {after : Forest}
    : problem.applyFix index forest = (.error error, after)
      ↔ problem.Fails index forest error ∧ after = forest := by
  unfold applyFix
  cases listed : problem.fixes[index]? with
  | none =>
      have outside : problem.fixes.length ≤ index := List.getElem?_eq_none_iff.mp listed
      dsimp only
      constructor
      · intro same
        obtain ⟨rfl, rfl⟩ : _ = error ∧ forest = after := by simpa using same
        exact ⟨.missing outside, rfl⟩
      · rintro ⟨fails, rfl⟩
        cases fails with
        | missing _ => rfl
        | chosen given _ => cases listed.symm.trans given
  | some fix =>
      have inside : index < problem.fixes.length := (List.getElem?_eq_some_iff.mp listed).1
      dsimp only
      rw [TypeFix.apply_eq_error_iff]
      constructor
      · rintro ⟨fails, rfl⟩
        exact ⟨.chosen listed fails, rfl⟩
      · rintro ⟨fails, rfl⟩
        cases fails with
        | missing outside => exact absurd inside (Nat.not_lt.mpr outside)
        | chosen given fails =>
            obtain rfl := Option.some.inj (listed.symm.trans given)
            exact ⟨fails, rfl⟩

/-- On every forest whatsoever, a fix fails with exactly the error that describes the failure, and
then the forest is as it was: a fix that the problem does not have, else a declaration that is not
found again, else a text that is no type. Whatever type is made for a declaration that has been
found, attaching it is never refused, so that no made type has to be removed again.
-/
theorem failed_fix_keeps_forest (forest : Forest) (problem : Problem)
    : (∀ fix error after,
        TypeFix.apply fix problem forest = (.error error, after)
        ↔ fix.Fails problem forest error ∧ after = forest)
      ∧ (∀ index error after,
          problem.applyFix index forest = (.error error, after)
          ↔ problem.Fails index forest error ∧ after = forest)
      ∧ ∀ id expr,
          problem.declaration? forest = some id
          → let grown := forest.addType expr
            (grown.2.attachType (some id) (some grown.1)).1.isDone := by
  refine ⟨?_, ?_, ?_⟩
  · intro fix error after
    exact TypeFix.apply_eq_error_iff
  · intro index error after
    exact Problem.applyFix_eq_error_iff
  · intro id expr found
    exact problem.attachType_isDone found expr

/-- The problem on the sample shelf's owner, with a fix that is no type. -/
def unreadable : Problem :=
  { untyped 4 "owner" with fixes := [⟨"List<"⟩] }

set_option maxRecDepth 10000 in
/-- On the sample shelf, a fix that is no type and one that does not exist both fail and change
nothing, and so does the fix of a problem on a property that is not there.
-/
theorem shelf_failed_fixes
    : unreadable.applyFix 0 shelf
        = (.error (.invalidType "List<" ⟨.nameExpected none, 5⟩), shelf)
      ∧ unreadable.applyFix 1 shelf = (.error (.noSuchFix 1 1), shelf)
      ∧ (untyped 9 "owner").applyFix 0 shelf = (.error (.staleDeclaration "owner"), shelf) := by
  obtain ⟨_, fails, _⟩ := failed_fix_keeps_forest shelf unreadable
  obtain ⟨_, gone, _⟩ := failed_fix_keeps_forest shelf (untyped 9 "owner")
  have found : unreadable.declaration? shelf ≠ none := by
    have same : unreadable.declaration? shelf = some 4 := by cbv
    simp [same]
  have absent : (untyped 9 "owner").declaration? shelf = none := by cbv
  have unread : TypeExpr.parse "List<" = .error ⟨.nameExpected none, 5⟩ := by
    with_unfolding_all rfl
  have invalid : unreadable.Fails 0 shelf (.invalidType "List<" ⟨.nameExpected none, 5⟩) :=
    .chosen (rfl : unreadable.fixes[0]? = some ⟨"List<"⟩) (.invalid found unread)
  have missing : unreadable.Fails 1 shelf (.noSuchFix 1 1) := .missing (Nat.le_refl 1)
  have stale : (untyped 9 "owner").Fails 0 shelf (.staleDeclaration "owner") :=
    .chosen (rfl : (untyped 9 "owner").fixes[0]? = some ⟨"Id?"⟩) (.stale absent)
  exact ⟨(fails 0 _ _).mpr ⟨invalid, rfl⟩, (fails 1 _ _).mpr ⟨missing, rfl⟩,
    (gone 0 _ _).mpr ⟨stale, rfl⟩⟩

end PropertyLint
