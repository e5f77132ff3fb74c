import PropertyLint.Proofs.Forest.DocumentOrder
import PropertyLint.Proofs.Inspection.Staleness

/-! The listing of properties is in document order, and edits of types leave it alone.
Whatever types are made, attached and inserted by fixes, the declarations stay where they are, so
that every later inspection meets the same properties in the same order.
-/

namespace PropertyLint

open Forest (Declarable InDocumentOrder Reachable SameOutline)

/-- The action makes types, attaches them, or inserts them for a problem. -/
def Action.Retypes : Action → Prop
  | .edit (.addType _) | .edit (.addTypeText _) | .edit (.attachType ..) => True
  | .edit _ => False
  | .applyFix .. | .insertType .. => True

variable {forest before after : Forest} {action : Action} {actions : List Action}

/-- An action on types leaves the outline alone, whether or not it succeeds. -/
theorem Action.sameOutline (coherent : forest.Coherent) (layered : forest.Layered)
    (retypes : action.Retypes)
    : SameOutline forest (action.apply forest) := by
  rcases action.apply_cases coherent layered with ⟨edit, rfl⟩ | same | ⟨id, expr, annotates⟩
  · cases edit with
    | addType expr => exact (Forest.addType_added coherent expr).1.grown.sameOutline
    | addTypeText text =>
        rw [Action.apply, Forest.apply_addTypeText]
        split
        · exact .refl forest
        · exact (Forest.addType_added coherent _).1.grown.sameOutline
    | attachType property typeRef => exact coherent.sameOutline_attachType layered property typeRef
    | _ => exact retypes.elim
  · rw [same]
    exact .refl forest
  · exact annotates.outline

/-- Any number of actions on types leave the outline alone, by induction on them. -/
theorem Acted.sameOutline (acted : Acted before actions after) (coherent : before.Coherent)
    (layered : before.Layered) (retype : ∀ action ∈ actions, action.Retypes)
    : SameOutline before after := by
  induction acted with
  | start => exact .refl before
  | step earlier action _ ih =>
      obtain ⟨forestCoherent, forestLayered, _⟩ := earlier.preserves coherent layered
      have last := action.sameOutline forestCoherent forestLayered (retype action (by simp))
      exact (ih fun other member => retype other (List.mem_append_left _ member)).trans last

/-- Below every root of a forest that callers can make, the walk over pending nodes comes to an end
and lists each property once: those that the recursive walk meets, in its order. A property comes
before every other one nested in it, and what stands at or below a child comes before what stands at
or below a later child. Making and attaching types and applying fixes never changes the listing.
-/
theorem listing_is_stable_preorder {forest : Forest} (reachable : Reachable Declarable forest)
    : (∀ root : NodeRef,
        (∃ met,
          (∀ other, forest.Preorder root.toList other ↔ other = met)
          ∧ forest.properties root = met.filter forest.isProperty)
        ∧ (∀ result, forest.Walk root.toList result ↔ result = forest.properties root)
        ∧ (forest.properties root).Nodup
        ∧ forest.InDocumentOrder (forest.properties root))
      ∧ ∀ actions after,
          Acted forest actions after
          → (∀ action ∈ actions, action.Retypes)
          → ∀ root, after.properties root = forest.properties root := by
  obtain ⟨coherent, layered⟩ := Forest.reachable_sound reachable
  refine ⟨fun root => ?_, ?_⟩
  · obtain ⟨walked, unique⟩ := coherent.walk_properties layered root
    obtain ⟨met, preorder, listed⟩ := walked.preorder
    refine ⟨⟨met, fun other => ?_, listed⟩, fun result => ?_, unique,
      coherent.properties_inDocumentOrder layered root⟩
    · exact ⟨fun again => again.unique preorder, fun same => same ▸ preorder⟩
    · exact ⟨fun walk => walk.deterministic walked, fun same => same ▸ walked⟩
  · intro actions after acted retype root
    obtain ⟨afterCoherent, afterLayered, _⟩ := acted.preserves coherent layered
    have same := acted.sameOutline coherent layered retype
    exact same.properties coherent layered afterCoherent afterLayered root

/-- The sample shelf with a property more, which stands in a block below the owner. -/
def furnished : Forest :=
  [.addBlock (some 4) {}, .addProperty (some 6) "shade" false {} {}].foldl Edit.apply shelf

theorem furnished_reachable : Reachable Declarable furnished := by
  have owner : Declarable shelf (some 4) :=
    Forest.declarable_some (by with_unfolding_all decide) (by with_unfolding_all rfl)
  have block := shelf_reachable.step (.addBlock (some 4) {}) owner
  exact block.step (.addProperty (some 6) "shade" false {} {})
    (Forest.declarable_some (by with_unfolding_all decide) (by with_unfolding_all rfl))

/-- In the furnished shelf the property in the block is listed behind the owner and before the size,
which was declared earlier. This stays so while both of them get a type.
-/
theorem furnished_listing_stable
    : let actions := [Action.edit (.addType (.named ["Int"] [] false)),
        .edit (.attachType (some 7) (some 8)), .applyFix (untyped 5 "size") 0]
      Reachable Declarable furnished
        ∧ furnished.properties (some 0) = [1, 4, 7, 5]
        ∧ [4, 7].Sublist (furnished.properties (some 0))
        ∧ [7, 5].Sublist (furnished.properties (some 0))
        ∧ (actions.foldl Action.apply furnished).properties (some 0) = [1, 4, 7, 5] := by
  intro actions
  have listed : furnished.properties (some 0) = [1, 4, 7, 5] := by with_unfolding_all rfl
  have acted : Acted furnished actions (actions.foldl Action.apply furnished) :=
    ((Acted.start.step (.edit (.addType (.named ["Int"] [] false))) Forest.declarable_none).step
      (.edit (.attachType (some 7) (some 8))) Forest.declarable_none).step
        (.applyFix (untyped 5 "size") 0) Forest.declarable_none
  have retype : ∀ action ∈ actions, action.Retypes := by simp [actions, Action.Retypes]
  obtain ⟨listings, stable⟩ := listing_is_stable_preorder furnished_reachable
  obtain ⟨_, _, _, order⟩ := listings (some 0)
  have children : furnished.childrenOf (some 0) = [1, 4, 5] := by with_unfolding_all rfl
  have block : furnished.parentOf (some 6) = some 4 := by with_unfolding_all rfl
  have inner : furnished.parentOf (some 7) = some 6 := by with_unfolding_all rfl
  have nested : furnished.Ascends 4 7 := by
    refine .up ?_ inner (.up ?_ block (.arrived ?_)) <;> with_unfolding_all rfl
  have size : furnished.Ascends 5 5 := .arrived (by with_unfolding_all rfl)
  have siblings : [4, 5].Sublist (furnished.childrenOf (some 0)) := by
    rw [children]
    decide
  have kept := stable actions _ acted retype (some 0)
  refine ⟨furnished_reachable, listed, ?_, ?_, kept.trans listed⟩
  · exact order.nested 4 (by simp [listed]) 7 (by simp [listed]) nested (by decide)
  · exact order.siblings 0 4 5 siblings 7 (by simp [listed]) 5 (by simp [listed]) nested size

end PropertyLint
