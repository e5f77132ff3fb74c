import Mathlib.Data.List.Flatten
import PropertyLint.Proofs.Forest.Outline
import PropertyLint.Proofs.Forest.Ascent

/-! The order in which the properties below a root are listed.
The query keeps a list of pending nodes. It meets the same nodes in the same order as the recursion
that takes a declaration first, then what stands below it, then its later siblings. So a
declaration comes before all that is nested in it, and before all that stands below a later sibling.
-/

namespace PropertyLint.Forest

/-- The recursive walk from nodes that stand side by side: each declaration is met before what is
met below it, and that before what is met from the nodes to the right. What is no declaration is not
entered.
-/
inductive Preorder (forest : Forest) : List NodeId → List NodeId → Prop
  | done : Preorder forest [] []
  | pass {id ids met} (leaf : forest.isDeclaration id = false) (right : Preorder forest ids met)
    : Preorder forest (id :: ids) met
  | enter {id ids below met} (inner : forest.isDeclaration id)
    (down : Preorder forest (forest.childrenOf (some id)) below) (right : Preorder forest ids met)
    : Preorder forest (id :: ids) (id :: below ++ met)

/-- A listing in document order: what descends from a listed node comes after it, and what descends
from a child of a node comes before what descends from a later child of it.
-/
structure InDocumentOrder (forest : Forest) (listing : List NodeId) : Prop where
  nested
    : ∀ first ∈ listing,
        ∀ later ∈ listing,
          forest.Ascends first later
          → later ≠ first
          → [first, later].Sublist listing
  siblings
    : ∀ parent first second,
        [first, second].Sublist (forest.childrenOf (some parent))
        → ∀ earlier ∈ listing,
            ∀ later ∈ listing,
              forest.Ascends first earlier
              → forest.Ascends second later
              → [earlier, later].Sublist listing

/-- Whether a property stands at the index. -/
def isProperty (forest : Forest) (id : NodeId) : Bool :=
  (forest.property? (some id)).isSome

variable {forest : Forest} {id parent first second earlier later : NodeId} {root : NodeRef}
  {ids others pending met result : List NodeId}

-----------------------------------------------------------------------------------------
-- The walk and the recursion
-----------------------------------------------------------------------------------------

/-- The recursion meets one list of nodes, by induction on its calls. -/
theorem Preorder.unique {other : List NodeId} (preorder : forest.Preorder ids met)
    (otherPreorder : forest.Preorder ids other)
    : met = other := by
  induction preorder generalizing other with
  | done =>
      cases otherPreorder
      rfl
  | pass leaf _ ih =>
      cases otherPreorder with
      | pass _ right => exact ih right
      | enter inner _ _ => simp [leaf] at inner
  | enter inner _ _ downIh rightIh =>
      cases otherPreorder with
      | pass leaf _ => simp [leaf] at inner
      | enter _ down right => rw [downIh down, rightIh right]

/-- A recursion from nodes in two groups is one from each group, by induction on the first group. -/
theorem Preorder.split (preorder : forest.Preorder (ids ++ others) met)
    : ∃ left right,
        met = left ++ right ∧ forest.Preorder ids left ∧ forest.Preorder others right := by
  induction ids generalizing met with
  | nil => exact ⟨[], met, rfl, .done, preorder⟩
  | cons id ids ih =>
      cases preorder with
      | pass leaf right =>
          obtain ⟨left, last, rfl, leftward, rightward⟩ := ih right
          exact ⟨left, last, rfl, .pass leaf leftward, rightward⟩
      | @enter _ _ below _ inner down right =>
          obtain ⟨left, last, rfl, leftward, rightward⟩ := ih right
          exact ⟨id :: below ++ left, last, by simp, .enter inner down leftward, rightward⟩

theorem isProperty_of_property {data : PropertyData}
    (property : forest.property? (some id) = some data)
    : forest.isProperty id := by
  simp [isProperty, property]

/-- The walk lists the properties among the nodes that the recursion meets, by induction on its
turns: where it puts the children before the pending nodes, the recursion returns from the ones to
the others.
-/
theorem Walk.preorder (walk : forest.Walk pending result)
    : ∃ met, forest.Preorder pending met ∧ result = met.filter forest.isProperty := by
  induction walk with
  | done => exact ⟨[], .done, rfl⟩
  | skip leaf _ ih =>
      obtain ⟨met, preorder, rfl⟩ := ih
      exact ⟨met, .pass leaf preorder, rfl⟩
  | enter inner other _ ih =>
      obtain ⟨_, preorder, rfl⟩ := ih
      obtain ⟨below, met, rfl, down, right⟩ := preorder.split
      exact ⟨_, .enter inner down right, by simp [isProperty, other]⟩
  | list property _ ih =>
      obtain ⟨_, preorder, rfl⟩ := ih
      obtain ⟨below, met, rfl, down, right⟩ := preorder.split
      have inner := isDeclaration_of_property property
      exact ⟨_, .enter inner down right, by simp [isProperty_of_property property]⟩

/-- When the recursion from some nodes comes to an end, the walk passes them in as many turns and
goes on with what is pending behind them, by induction on the calls.
-/
theorem Preorder.walk (preorder : forest.Preorder ids met) (rest : forest.Walk pending result)
    : forest.Walk (ids ++ pending) (met.filter forest.isProperty ++ result) := by
  induction preorder generalizing pending result with
  | done => exact rest
  | pass leaf _ ih => exact .skip leaf (ih rest)
  | @enter id ids below met inner _ _ downIh rightIh =>
      have later := downIh (rightIh rest)
      cases property : forest.property? (some id) with
      | none => simpa [isProperty, property] using .enter inner property later
      | some data => simpa [isProperty, property] using .list property later

/-- Walk and recursion end for the same nodes, in every forest, and then the walk lists the
properties that the recursion meets.
-/
theorem walk_iff_preorder
    : forest.Walk pending result
      ↔ ∃ met, forest.Preorder pending met ∧ result = met.filter forest.isProperty := by
  constructor
  · exact Walk.preorder
  · rintro ⟨met, preorder, rfl⟩
    simpa using preorder.walk .done

-----------------------------------------------------------------------------------------
-- The listing below a node, in terms of those below its children
-----------------------------------------------------------------------------------------

theorem Ascends.declared (ascends : forest.Ascends id later) : forest.isDeclaration later := by
  cases ascends <;> assumption

/-- Of two nodes from which the same node descends, one descends from the other. -/
theorem Ascends.comparable (ascends : forest.Ascends first id) (other : forest.Ascends second id)
    : forest.Ascends first second ∨ forest.Ascends second first := by
  induction ascends with
  | arrived _ => exact Or.inr other
  | up declared link above ih =>
      cases other with
      | arrived _ => exact Or.inl (.up declared link above)
      | up _ otherLink otherAbove =>
          obtain rfl := Option.some.inj (link.symm.trans otherLink)
          exact ih otherAbove

section Listing

variable (coherent : forest.Coherent) (layered : forest.Layered)

include coherent layered

/-- The nodes side by side are listed one after another, each with what is listed below it, by
induction on the recursion.
-/
theorem Coherent.filter_preorder (preorder : forest.Preorder ids met)
    : met.filter forest.isProperty = ids.flatMap fun id => forest.properties (some id) := by
  induction preorder with
  | done => rfl
  | pass leaf _ ih =>
      rw [ih, List.flatMap_cons, coherent.properties_of_leaf layered leaf, List.nil_append]
  | @enter id ids below met inner down right _ rightIh =>
      have walked := (coherent.walk_properties layered (some id)).1
      have single : forest.Walk [id] ((id :: below).filter forest.isProperty) :=
        walk_iff_preorder.mpr ⟨_, .enter inner down .done, by simp⟩
      rw [List.flatMap_cons, walked.deterministic single, ← rightIh, List.filter_append]

/-- Below a declaration are listed the declaration itself, if it is a property, and then what is
listed below each child from left to right.
-/
theorem Coherent.properties_node (declared : forest.isDeclaration id)
    : forest.properties (some id)
      = [id].filter forest.isProperty
        ++ (forest.childrenOf (some id)).flatMap fun child => forest.properties (some child) := by
  obtain ⟨met, preorder, listed⟩ := (coherent.walk_properties layered (some id)).1.preorder
  cases preorder with
  | pass leaf _ => simp [leaf] at declared
  | enter _ down right =>
      cases right
      rw [listed, ← coherent.filter_preorder layered down, ← List.filter_append]
      simp

-----------------------------------------------------------------------------------------
-- What comes before what
-----------------------------------------------------------------------------------------

/-- What is listed below a node is listed in the same order below all that it descends from, by
induction on the ascent.
-/
theorem Coherent.sublist_properties (ascends : forest.Ascends parent id)
    : (forest.properties (some id)).Sublist (forest.properties (some parent)) := by
  induction ascends with
  | arrived _ => exact .refl _
  | @up id parent _ link above ih =>
      have listed := (coherent.linked.link parent id).mpr link
      have among := (List.singleton_sublist.mpr listed).flatMap fun child =>
        forest.properties (some child)
      refine List.Sublist.trans ?_ ih
      rw [coherent.properties_node layered above.declared]
      simpa using among.trans (List.sublist_append_right _ _)

/-- A property is listed before every other one that descends from it. -/
theorem Coherent.nested_listed_later (listed : first ∈ forest.properties root)
    (laterListed : later ∈ forest.properties root) (ascends : forest.Ascends first later)
    (proper : later ≠ first)
    : [first, later].Sublist (forest.properties root) := by
  obtain ⟨⟨data, property⟩, top, rfl, above⟩ := (coherent.mem_properties_iff layered).mp listed
  have nested : later ∈ forest.properties (some first) :=
    (coherent.mem_properties_iff layered).mpr
      ⟨((coherent.mem_properties_iff layered).mp laterListed).1, first, rfl, ascends⟩
  refine List.Sublist.trans ?_ (coherent.sublist_properties layered above)
  rw [coherent.properties_node layered above.declared] at nested ⊢
  simp only [isProperty_of_property property, List.filter_cons_of_pos, List.filter_nil,
    List.singleton_append, List.mem_cons, proper, false_or] at nested ⊢
  exact (List.singleton_sublist.mpr nested).cons_cons first

theorem Coherent.rank_le_of_ascends (ascends : forest.Ascends parent id)
    : forest.rank parent ≤ forest.rank id := by
  induction ascends with
  | arrived _ => exact Nat.le_refl _
  | up _ link _ ih => exact Nat.le_trans ih (Nat.le_of_lt (coherent.rank_lt layered link))

/-- No child of a node descends from another child of it. -/
theorem Coherent.siblings_apart (link : forest.parentOf (some first) = some parent)
    (otherLink : forest.parentOf (some second) = some parent) (apart : first ≠ second)
    : ¬ forest.Ascends first second := by
  intro ascends
  cases ascends with
  | arrived _ => exact apart rfl
  | up _ upLink above =>
      obtain rfl := Option.some.inj (otherLink.symm.trans upLink)
      have higher := coherent.rank_lt layered link
      have lower := coherent.rank_le_of_ascends layered above
      omega

/-- What descends from a child of a node descends from no other child of it. -/
theorem Coherent.subtrees_apart (link : forest.parentOf (some first) = some parent)
    (otherLink : forest.parentOf (some second) = some parent) (apart : first ≠ second)
    (ascends : forest.Ascends first id)
    : ¬ forest.Ascends second id := by
  intro other
  rcases ascends.comparable other with upward | downward
  · exact coherent.siblings_apart layered link otherLink apart upward
  · exact coherent.siblings_apart layered otherLink link apart.symm downward

/-- What descends from a child of a node is listed before what descends from a later child of it. -/
theorem Coherent.siblings_listed_in_order
    (siblings : [first, second].Sublist (forest.childrenOf (some parent)))
    (ascends : forest.Ascends first earlier) (laterAscends : forest.Ascends second later)
    (listed : earlier ∈ forest.properties root) (laterListed : later ∈ forest.properties root)
    : [earlier, later].Sublist (forest.properties root) := by
  have linked := coherent.linked
  have link := (linked.link parent first).mp (siblings.subset (by simp))
  have laterLink := (linked.link parent second).mp (siblings.subset (by simp))
  have apart : first ≠ second := by
    simpa using siblings.nodup (linked.unique parent)
  obtain ⟨property, top, rfl, above⟩ := (coherent.mem_properties_iff layered).mp listed
  obtain ⟨laterProperty, _, same, laterAbove⟩ :=
    (coherent.mem_properties_iff layered).mp laterListed
  obtain rfl := Option.some.inj same
  have notBelow : ¬ forest.Ascends first top := fun downward =>
    coherent.subtrees_apart layered link laterLink apart (laterAbove.trans downward) laterAscends
  have reached : forest.Ascends top parent := by
    cases (above.comparable ascends).resolve_right notBelow with
    | arrived declared => exact absurd (.arrived declared) notBelow
    | up _ upLink reached => exact Option.some.inj (link.symm.trans upLink) ▸ reached
  have earlierBelow : earlier ∈ forest.properties (some first) :=
    (coherent.mem_properties_iff layered).mpr ⟨property, first, rfl, ascends⟩
  have laterBelow : later ∈ forest.properties (some second) :=
    (coherent.mem_properties_iff layered).mpr ⟨laterProperty, second, rfl, laterAscends⟩
  have pair := (List.singleton_sublist.mpr earlierBelow).append
    (List.singleton_sublist.mpr laterBelow)
  have among := siblings.flatMap fun child => forest.properties (some child)
  refine List.Sublist.trans ?_ (coherent.sublist_properties layered reached)
  rw [coherent.properties_node layered reached.declared]
  refine List.Sublist.trans ?_ (List.sublist_append_right _ _)
  exact pair.trans (by simpa using among)

theorem Coherent.properties_inDocumentOrder (root : NodeRef)
    : forest.InDocumentOrder (forest.properties root) where
  nested _ listed _ laterListed ascends proper :=
    coherent.nested_listed_later layered listed laterListed ascends proper
  siblings _ _ _ siblings _ listed _ laterListed ascends laterAscends :=
    coherent.siblings_listed_in_order layered siblings ascends laterAscends listed laterListed

end Listing

end PropertyLint.Forest
