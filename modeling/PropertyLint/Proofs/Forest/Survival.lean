import PropertyLint.Proofs.Forest.Outline

/-! What survives an edit.
A removal erases the nodes at and below one node and spares the others. Every other edit, also the
one that replaces a written type, spares all nodes but type references.
-/

namespace PropertyLint.Forest

variable {forest before middle after : Forest} {id root ancestor : NodeId} {ref : NodeRef}

/-- All nodes but type references stay the same, and every name keeps its text. -/
structure Spares (before after : Forest) : Prop where
  sameAt : ∀ id, before.Standing id → SameAt before after id
  names : before.interner.Extends after.interner

theorem SameOutline.spares (same : SameOutline before after) : Spares before after :=
  ⟨same.standing, same.names⟩

theorem Grown.spares (grown : Grown before after) : Spares before after :=
  grown.sameOutline.spares

theorem Spares.refl (forest : Forest) : Spares forest forest :=
  (Grown.refl forest).spares

theorem Spares.trans (first : Spares before middle) (second : Spares middle after)
    : Spares before after where
  sameAt id standing := by
    have same := first.sameAt id standing
    exact same.trans (second.sameAt id (same.standing standing))
  names := first.names.trans second.names

-----------------------------------------------------------------------------------------
-- Edits that remove nothing
-----------------------------------------------------------------------------------------

/-- A new node is listed below its parent, and nothing else changes. -/
theorem Spares.push (known : forest.Known ref) (span : Span) (data : NodeData)
    : Spares forest (forest.push ref span data).2 where
  sameAt id standing := by
    have old : id ≠ forest.size := Nat.ne_of_lt standing.1
    rw [SameAt, nodes_push known, if_neg old, Option.map_map]
    congr 1
    funext node
    simp only [Function.comp_apply]
    split <;> rfl
  names := by
    rw [interner_push]
    exact .refl _

section Edits

variable (coherent : forest.Coherent) (layered : forest.Layered)

include coherent layered

/-- A change other than a removal spares all nodes but type references. -/
theorem Coherent.spares_lasting (change : Lasting Declarable forest after)
    : Spares forest after := by
  cases change with
  | intern text => exact (Grown.intern forest text).spares
  | declare span allowed _ _ => exact .push allowed.1 span _
  | addType expr => exact (addType_added coherent expr).1.grown.spares
  | attachType property typeRef =>
      exact (coherent.sameOutline_attachType layered property typeRef).spares

/-- Changes other than removals spare all nodes but type references, by induction on them. -/
theorem LastingChanges.spares (changes : LastingChanges Declarable forest after)
    : Spares forest after := by
  induction changes with
  | refl => exact .refl forest
  | tail earlier change ih =>
      have before := LastingChanges.changes earlier
      exact ih.trans (Coherent.spares_lasting (Changes.coherent before declarable_stable coherent)
        (Changes.layered before coherent layered) change)

/-- Every edit other than a removal spares all nodes but type references. -/
theorem Coherent.spares_edit (edit : Edit) (allowed : Declarable forest edit.parent)
    (lasting : ∀ ref, edit ≠ .remove ref)
    : Spares forest (edit.apply forest) :=
  LastingChanges.spares coherent layered
    (coherent.lastingChanges declarable_stable edit allowed lasting)

end Edits

-----------------------------------------------------------------------------------------
-- A node with all that stands above it
-----------------------------------------------------------------------------------------

/-- The first node is the second one or stands above it. -/
abbrev Above (forest : Forest) : NodeId → NodeId → Prop :=
  Relation.ReflTransGen forest.IsParent

/-- The way up is the way down in the other direction. -/
theorem Linked.above_iff_below (linked : forest.Linked)
    : forest.Above ancestor id ↔ forest.Below ancestor id := by
  have same : forest.IsParent = Lists forest.nodes := by
    funext parent child
    exact propext linked.lists_iff.symm
  rw [Above, same]

/-- What stands above an existing node exists. -/
theorem Linked.above_lt_size (linked : forest.Linked) (known : id < forest.size)
    (above : forest.Above ancestor id)
    : ancestor < forest.size := by
  rcases above.cases_head with rfl | ⟨_, link, _⟩
  · exact known
  · exact linked.parent_lt_size link

/-- Above a declaration stand declarations only, by induction on the way up. -/
theorem Standing.above (standing : forest.Standing id) (coherent : forest.Coherent)
    (layered : forest.Layered) (above : forest.Above ancestor id)
    : forest.Standing ancestor := by
  induction above using Relation.ReflTransGen.head_induction_on with
  | refl => exact standing
  | head link _ ih => exact ih.parent coherent layered link

/-- The node and all that stands above it are the same in both forests. -/
def SameLine (before after : Forest) (id : NodeId) : Prop :=
  ∀ ancestor, before.Above ancestor id → SameAt before after ancestor

theorem SameLine.sameAt (same : SameLine before after id) : SameAt before after id :=
  same id .refl

/-- The same nodes stand above a node in both forests, by induction on either way up: each step
leads to the same parent.
-/
theorem SameLine.above_iff (same : SameLine before after id)
    : after.Above ancestor id ↔ before.Above ancestor id := by
  constructor
  · intro above
    induction above using Relation.ReflTransGen.head_induction_on with
    | refl => exact .refl
    | head link _ ih => exact .head ((same _ ih).parentOf.symm.trans link) ih
  · intro above
    induction above using Relation.ReflTransGen.head_induction_on with
    | refl => exact .refl
    | head link rest ih => exact .head ((same _ rest).parentOf.trans link) ih

/-- A removal erases what the removed node stands above. -/
theorem Linked.kind?_remove_above (linked : forest.Linked) (known : id < forest.size)
    (above : forest.Above root id)
    : (forest.remove (some root)).kind? (some id) = some .removed := by
  have found := linked.above_lt_size known above
  have below := linked.above_iff_below.mp above
  rw [kind?_eq, (queries_remove_below found below known).2.2]
  rfl

end PropertyLint.Forest
