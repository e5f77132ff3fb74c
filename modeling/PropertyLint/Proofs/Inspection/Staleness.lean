import PropertyLint.Proofs.Forest.Survival
import PropertyLint.Proofs.Inspection.FailedFixes

/-! Problems go stale when their declarations are removed, and not before.
A removal of a node erases every declaration below it for good. Everything else that callers can do
keeps a declaration as it is, together with all nodes above it, so that a problem finds its
declaration again.
-/

namespace PropertyLint

open Forest (Annotates Declarable Reachable SameAt SameLine Spares)
open Inspection

/-- What callers can do to a forest once they have problems. -/
inductive Action where
  | edit (edit : Edit)
  /-- Applies a fix of the problem by its index. -/
  | applyFix (problem : Problem) (index : Nat)
  /-- Inserts a type for the problem, which need not offer it. -/
  | insertType (problem : Problem) (fix : TypeFix)

namespace Action

/-- The forest after the action. -/
def apply (forest : Forest) : Action → Forest
  | .edit change => change.apply forest
  | .applyFix problem index => (problem.applyFix index forest).2
  | .insertType problem fix => (fix.apply problem forest).2

/-- The parent that the caller gives for a new declaration, if any. -/
def parent : Action → NodeRef
  | .edit change => change.parent
  | .applyFix .. | .insertType .. => none

/-- The removal of the node at an index. -/
def remove (id : NodeId) : Action :=
  .edit (.remove (some id))

end Action

/-- `after` results from `before` by the actions, none of which declares below a type reference or
below a missing node.
-/
inductive Acted (before : Forest) : List Action → Forest → Prop
  | start : Acted before [] before
  | step {actions forest} (earlier : Acted before actions forest) (action : Action)
    (allowed : Declarable forest action.parent)
    : Acted before (actions ++ [action]) (action.apply forest)

/-- The property is the same declaration in both forests. -/
structure SameDeclaration (before after : Forest) (node : NodeRef) : Prop where
  name : after.declarationName? node = before.declarationName? node
  nameSpan
    : (after.property? node).map PropertyData.nameSpan
      = (before.property? node).map PropertyData.nameSpan
  isMutable
    : (after.property? node).map PropertyData.isMutable
      = (before.property? node).map PropertyData.isMutable
  parent : after.parentOf node = before.parentOf node
  scope : after.scope? node = before.scope? node

variable {forest before after : Forest} {problem : Problem} {id root : NodeId}
  {actions : List Action} {action : Action}

-----------------------------------------------------------------------------------------
-- What one action does
-----------------------------------------------------------------------------------------

section Step

variable (coherent : forest.Coherent) (layered : forest.Layered)

include coherent layered

/-- An attempt to insert a type either changes nothing or writes the type for the declaration that
it finds.
-/
theorem TypeFix.apply_cases (fix : TypeFix) (problem : Problem)
    : (fix.apply problem forest).2 = forest
      ∨ ∃ id expr, Annotates forest (fix.apply problem forest).2 id expr := by
  rcases fix.apply_or_fails problem forest with ⟨error, failed, _⟩ | ⟨⟨outcome, succeeded⟩, _⟩
  · exact Or.inl (congrArg Prod.snd failed)
  · obtain ⟨id, expr, _, _, ⟨same, _⟩ | annotates⟩ :=
      fix.apply_ok coherent layered (Prod.ext succeeded rfl)
    · exact Or.inl same
    · exact Or.inr ⟨id, expr, annotates⟩

/-- An action is an edit, or it changes nothing, or it writes a type for one property. -/
theorem Action.apply_cases (action : Action)
    : (∃ edit, action = .edit edit)
      ∨ action.apply forest = forest
      ∨ ∃ id expr, Annotates forest (action.apply forest) id expr := by
  cases action with
  | edit edit => exact Or.inl ⟨edit, rfl⟩
  | applyFix problem index =>
      simp only [Action.apply, Problem.applyFix]
      split
      · exact Or.inr (Or.inl rfl)
      · rename_i fix _
        exact Or.inr (fix.apply_cases coherent layered problem)
  | insertType problem fix => exact Or.inr (fix.apply_cases coherent layered problem)

/-- Every action keeps the invariant. -/
theorem Action.preserves (action : Action) (allowed : Declarable forest action.parent)
    : (action.apply forest).Coherent ∧ (action.apply forest).Layered := by
  rcases action.apply_cases coherent layered with ⟨edit, rfl⟩ | same | ⟨id, expr, annotates⟩
  · have changes := coherent.changes Forest.declarable_stable edit allowed
    exact ⟨Forest.Changes.coherent changes Forest.declarable_stable coherent,
      Forest.Changes.layered changes coherent layered⟩
  · rw [same]
    exact ⟨coherent, layered⟩
  · exact ⟨annotates.coherent, annotates.layered⟩

/-- Every action other than a removal spares all nodes but type references. -/
theorem Action.spares (action : Action) (allowed : Declarable forest action.parent)
    (lasting : ∀ ref, action ≠ .edit (.remove ref))
    : Spares forest (action.apply forest) := by
  rcases action.apply_cases coherent layered with ⟨edit, rfl⟩ | same | ⟨id, expr, annotates⟩
  · refine coherent.spares_edit layered edit allowed fun ref equal => ?_
    exact lasting ref (equal ▸ rfl)
  · rw [same]
    exact .refl forest
  · exact annotates.outline.spares

theorem Action.names (action : Action) (allowed : Declarable forest action.parent)
    : forest.interner.Extends (action.apply forest).interner := by
  by_cases removal : ∃ ref, action = .edit (.remove ref)
  · obtain ⟨ref, rfl⟩ := removal
    simp only [Action.apply, Edit.apply, Forest.interner_remove]
    exact .refl _
  · exact (action.spares coherent layered allowed (not_exists.mp removal)).names

/-- A declaration, or what is left of one, stays the same unless a node at or above it is removed.
-/
theorem Action.sameAt (action : Action) (allowed : Declarable forest action.parent)
    (standing : forest.Standing id) (apart : ∀ root, action = .remove root → ¬ forest.Above root id)
    : SameAt forest (action.apply forest) id := by
  by_cases removal : ∃ ref, action = .edit (.remove ref)
  · obtain ⟨ref, rfl⟩ := removal
    cases ref with
    | none => rfl
    | some root =>
        refine Forest.sameAt_remove fun below => apart root rfl ?_
        exact coherent.linked.above_iff_below.mpr below
  · exact (action.spares coherent layered allowed (not_exists.mp removal)).sameAt id standing

/-- What is removed stays removed: another removal can only erase it again. -/
theorem Action.removed (action : Action) (allowed : Declarable forest action.parent)
    (removed : forest.kind? (some id) = some .removed)
    : (action.apply forest).kind? (some id) = some .removed := by
  have standing : forest.Standing id := by
    obtain ⟨node, found, _⟩ := Option.map_eq_some_iff.mp removed
    exact ⟨Forest.lt_size_of_found found, by simp [Forest.isTypeReference, removed]⟩
  by_cases again : ∃ root, action = .remove root ∧ forest.Above root id
  · obtain ⟨root, rfl, above⟩ := again
    exact coherent.linked.kind?_remove_above standing.1 above
  · have same := action.sameAt coherent layered allowed standing fun root equal above =>
      again ⟨root, equal, above⟩
    exact same.kind?.trans removed

end Step

-----------------------------------------------------------------------------------------
-- What a sequence of actions does
-----------------------------------------------------------------------------------------

section Runs

variable (coherent : before.Coherent) (layered : before.Layered)

include coherent layered

/-- Every sequence keeps the invariant, and the names that have been given out, by induction. -/
theorem Acted.preserves (acted : Acted before actions after)
    : after.Coherent ∧ after.Layered ∧ before.interner.Extends after.interner := by
  induction acted with
  | start => exact ⟨coherent, layered, .refl _⟩
  | step _ action allowed ih =>
      obtain ⟨coherent, layered, names⟩ := ih
      have next := action.preserves coherent layered allowed
      exact ⟨next.1, next.2, names.trans (action.names coherent layered allowed)⟩

/-- A declaration and all that stands above it stay the same while none of these nodes is removed,
by induction on the actions: as the same nodes stand above it all the time, no removal of another
node reaches it.
-/
theorem Acted.sameLine (acted : Acted before actions after) (standing : before.Standing id)
    (spared : ∀ ancestor, before.Above ancestor id → Action.remove ancestor ∉ actions)
    : SameLine before after id := by
  induction acted with
  | start => exact fun _ _ => rfl
  | @step actions forest earlier action allowed ih =>
      obtain ⟨forestCoherent, forestLayered, _⟩ := earlier.preserves coherent layered
      have line := ih fun ancestor above member =>
        spared ancestor above (List.mem_append_left _ member)
      intro ancestor above
      have same := line ancestor above
      have kept := same.standing (standing.above coherent layered above)
      refine same.trans (action.sameAt forestCoherent forestLayered allowed kept ?_)
      rintro root rfl reaches
      have higher : before.Above root ancestor := by
        have upper : SameLine before forest ancestor :=
          fun other aboveOther => line other (aboveOther.trans above)
        exact upper.above_iff.mp reaches
      exact spared root (higher.trans above) (by simp)

/-- A declaration is removed for good when a node at or above it is removed, by induction on the
actions: at the first such removal the same nodes still stand above it.
-/
theorem Acted.removed (acted : Acted before actions after) (standing : before.Standing id)
    (gone : ∃ ancestor, before.Above ancestor id ∧ Action.remove ancestor ∈ actions)
    : after.kind? (some id) = some .removed := by
  induction acted with
  | start =>
      obtain ⟨_, _, member⟩ := gone
      cases member
  | @step actions forest earlier action allowed ih =>
      obtain ⟨forestCoherent, forestLayered, _⟩ := earlier.preserves coherent layered
      by_cases before : ∃ ancestor, before.Above ancestor id ∧ Action.remove ancestor ∈ actions
      · exact action.removed forestCoherent forestLayered allowed (ih before)
      · have line := earlier.sameLine coherent layered standing fun ancestor above member =>
          before ⟨ancestor, above, member⟩
        obtain ⟨ancestor, above, member⟩ := gone
        rcases List.mem_append.mp member with member | last
        · exact absurd ⟨ancestor, above, member⟩ before
        · obtain rfl := List.mem_singleton.mp last
          have kept := line.sameAt.standing standing
          exact forestCoherent.linked.kind?_remove_above kept.1 (line.above_iff.mpr above)

end Runs

-----------------------------------------------------------------------------------------
-- Stale problems
-----------------------------------------------------------------------------------------

/-- A property that is the same, with the same parent, is the same declaration. -/
theorem Forest.SameLine.sameDeclaration (line : SameLine before after id)
    (named : before.Named) (names : before.interner.Extends after.interner) {data : PropertyData}
    (property : before.property? (some id) = some data)
    : SameDeclaration before after (some id) := by
  have same := line.sameAt
  exact {
    name := same.declarationName? named names property
    nameSpan := by
      simpa [Function.comp_def, PropertyData.untyped]
        using congrArg (Option.map PropertyData.nameSpan) same.property?
    isMutable := by
      simpa [Function.comp_def, PropertyData.untyped]
        using congrArg (Option.map PropertyData.isMutable) same.property?
    parent := same.parentOf
    scope := same.scope? fun parent link => line parent (.single link)
  }

/-- A problem whose declaration is not found reports this for each of its fixes, and the forest
stays as it is.
-/
theorem Problem.applyFix_stale (stale : problem.declaration? forest = none) {index : Nat}
    (known : index < problem.fixes.length)
    : problem.applyFix index forest
      = (.error (.staleDeclaration problem.declarationName), forest) := by
  simp [Problem.applyFix, List.getElem?_eq_getElem known, TypeFix.apply, stale]

/-- Whatever happens to the forest after an inspection, a problem finds the same declaration again
exactly while neither it nor a node above it has been removed. Otherwise it finds none, and all its
fixes report a stale declaration.
-/
theorem problem_stale_iff_removed {forest : Forest} (reachable : Reachable Declarable forest)
    {settings : InspectionSettings} {service : TypeService} {root : NodeRef}
    (reported : problem ∈ Inspection.check settings service forest root)
    (acted : Acted forest actions after)
    : ∃ id,
        problem.node = some id
        ∧ (problem.declaration? after = some id ∧ SameDeclaration forest after (some id)
            ↔ ∀ ancestor, forest.Above ancestor id → Action.remove ancestor ∉ actions)
        ∧ ((∃ ancestor, forest.Above ancestor id ∧ Action.remove ancestor ∈ actions)
            → problem.declaration? after = none
              ∧ ∀ index,
                  index < problem.fixes.length
                  → problem.applyFix index after
                    = (.error (.staleDeclaration problem.declarationName), after)) := by
  obtain ⟨coherent, layered⟩ := Forest.reachable_sound reachable
  have listed : problem ∈ inspectFile ⟨settings⟩ forest root service := reported
  obtain ⟨id, node, flagged⟩ := flagged_of_mem_inspectFile listed
  obtain ⟨data, property, _⟩ := isEligible_iff.mp (visit_eq_some_iff.mp flagged).1
  have standing := Forest.standing_of_isDeclaration (Forest.isDeclaration_of_property property)
  have stale (gone : ∃ ancestor, forest.Above ancestor id ∧ Action.remove ancestor ∈ actions)
      : problem.declaration? after = none := by
    have removed := acted.removed coherent layered standing gone
    have leaf : after.isDeclaration id = false := by simp [Forest.isDeclaration, removed]
    simp [Problem.declaration?, node, Forest.property?_of_leaf leaf]
  refine ⟨id, node, ⟨?_, ?_⟩, fun gone => ⟨stale gone, ?_⟩⟩
  · rintro ⟨found, _⟩ ancestor above member
    rw [stale ⟨ancestor, above, member⟩] at found
    cases found
  · intro spared
    have line := acted.sameLine coherent layered standing spared
    obtain ⟨_, _, names⟩ := acted.preserves coherent layered
    have same := line.sameDeclaration coherent.named names property
    obtain ⟨new, newProperty⟩ : ∃ new, after.property? (some id) = some new := by
      have outlines := line.sameAt.property?
      rw [property] at outlines
      obtain ⟨new, newProperty, _⟩ := Option.map_eq_some_iff.mp outlines
      exact ⟨new, newProperty⟩
    exact ⟨declaration?_eq flagged newProperty same.scope same.name, same⟩
  · intro index known
    exact Problem.applyFix_stale (stale gone) known

/-- On the sample shelf the owner gets a type and the size is removed: the owner is found again, and
the size is not.
-/
theorem shelf_size_stale
    : let actions := [Action.applyFix (untyped 4 "owner") 1, Action.remove 5]
      let after := actions.foldl Action.apply shelf
      Reachable Declarable shelf
        ∧ (untyped 4 "owner").declaration? after = some 4
        ∧ SameDeclaration shelf after (some 4)
        ∧ (untyped 5 "size").declaration? after = none
        ∧ (untyped 5 "size").applyFix 0 after = (.error (.staleDeclaration "size"), after) := by
  intro actions after
  have acted : Acted shelf actions after :=
    (Acted.start.step (.applyFix (untyped 4 "owner") 1) Forest.declarable_none).step (.remove 5)
      Forest.declarable_none
  have reported {problem : Problem} (listed : problem ∈ [untyped 4 "owner", untyped 5 "size"])
      : problem ∈ Inspection.check {} idService shelf (some 0) := by
    rw [← shelf_problems] at listed
    exact listed
  obtain ⟨owner, ownerNode, ownerFound, _⟩ :=
    problem_stale_iff_removed shelf_reachable (reported List.mem_cons_self) acted
  obtain ⟨size, sizeNode, _, sizeStale⟩ := problem_stale_iff_removed shelf_reachable
    (reported (List.mem_cons_of_mem _ List.mem_cons_self)) acted
  obtain rfl := Option.some.inj ownerNode
  obtain rfl := Option.some.inj sizeNode
  have spared : ∀ ancestor, shelf.Above ancestor 4 → Action.remove ancestor ∉ actions := by
    intro ancestor above member
    obtain rfl : ancestor = 5 := by simpa [actions, Action.remove] using member
    have file : shelf.parentOf (some 4) = some 0 := by cbv
    have rootless : shelf.parentOf (some 0) = none := by cbv
    rcases above.cases_tail with same | ⟨parent, higher, link⟩
    · cases same
    · obtain rfl := Option.some.inj (file.symm.trans link)
      rcases higher.cases_tail with same | ⟨top, _, link⟩
      · cases same
      · rw [Forest.IsParent, rootless] at link
        cases link
  obtain ⟨ownerDeclaration, ownerSame⟩ := ownerFound.mpr spared
  obtain ⟨noSize, stale⟩ := sizeStale ⟨5, .refl, by simp [actions]⟩
  exact ⟨shelf_reachable, ownerDeclaration, ownerSame, noSize, stale 0 (by decide)⟩

end PropertyLint
