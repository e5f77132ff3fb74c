import PropertyLint.Proofs.Forest.Survival

/-! A removal takes out one subtree.
The loop that erases keeps pending indices, in whatever order it takes them: every visit uses up a
pending index or a link, and leaves the outcome of the loop as it was. What is erased in the end is
the node with all its descendants; of the others only the former parent notices.
-/

namespace PropertyLint.Forest

open Relation (ReflTransGen)

variable {forest : Forest} {id root : NodeId} {nodes result : Array Node}
  {pending others : List NodeId}

-----------------------------------------------------------------------------------------
-- The loop ends, with the same outcome in any order
-----------------------------------------------------------------------------------------

/-- One visit of the loop that erases: a pending index is taken, and the links of the node there,
if it exists, are pending in its place. A loop that takes the last index, as from a stack, and one
that takes the first are both made of such visits.
-/
inductive Visit : Array Node × List NodeId → Array Node × List NodeId → Prop
  | skip {nodes id front back} (missing : nodes[id]? = none)
    : Visit (nodes, front ++ id :: back) (nodes, front ++ back)
  | erase {nodes id node front back} (found : nodes[id]? = some node)
    : Visit (nodes, front ++ id :: back)
        (nodes.setIfInBounds id node.erased, front ++ node.children ++ back)

/-- The indices that are pending and the links that can still become pending. -/
def remaining (state : Array Node × List NodeId) : Nat :=
  linkCount state.1.toList + state.2.length

theorem Visit.remaining_lt {state next : Array Node × List NodeId} (visit : Visit state next)
    : remaining next < remaining state := by
  cases visit with
  | skip missing => simp [remaining]
  | @erase nodes id node front back found =>
      have links := linkCount_set_erased nodes.toList id node (by simpa using found)
      simp only [remaining, Array.toList_setIfInBounds, List.length_append, List.length_cons]
      omega

/-- However the visits are chosen, they come to an end. -/
theorem visit_wellFounded : WellFounded fun next state => Visit state next :=
  Subrelation.wf Visit.remaining_lt (measure remaining).wf

/-- Only a loop that has nothing left to visit stops. -/
theorem pending_eq_nil (stopped : ∀ next, ¬ Visit (nodes, pending) next) : pending = [] := by
  cases pending with
  | nil => rfl
  | cons id back =>
      exfalso
      cases found : nodes[id]? with
      | none =>
          have missing : nodes[id]? = none := found
          have visit : Visit (nodes, [] ++ id :: back) _ := .skip missing
          exact stopped _ visit
      | some node =>
          have visit : Visit (nodes, [] ++ id :: back) _ := .erase found
          exact stopped _ visit

/-- What is reached does not depend on the order of the pending indices. -/
theorem reached_perm (perm : pending.Perm others)
    : Reached nodes pending id ↔ Reached nodes others id := by
  simp only [Reached, perm.mem_iff]

/-- Where the same node is reached or not, the loop leaves the same. -/
theorem eraseAll_congr (reached : Reached nodes pending id ↔ Reached result others id)
    (same : nodes[id]? = result[id]?)
    : (eraseAll nodes pending)[id]? = (eraseAll result others)[id]? := by
  by_cases here : Reached nodes pending id
  · rw [eraseAll_reached here, eraseAll_reached (reached.mp here), same]
  · rw [eraseAll_kept here, eraseAll_kept (mt reached.mpr here), same]

theorem eraseAll_missing (missing : nodes[id]? = none) : (eraseAll nodes pending)[id]? = none := by
  rw [Array.getElem?_eq_none_iff] at missing ⊢
  rwa [size_eraseAll]

/-- What is erased stays so, whether it is reached again or not. -/
theorem eraseAll_erased {node : Node} (found : nodes[id]? = some node.erased)
    : (eraseAll nodes pending)[id]? = some node.erased := by
  by_cases again : Reached nodes pending id
  · rw [eraseAll_reached again, found]
    rfl
  · rw [eraseAll_kept again, found]

/-- A visit leaves the outcome of the loop as it was: the others are reached as before, and the
visited node is erased by now.
-/
theorem Visit.eraseAll_eq {state next : Array Node × List NodeId} (visit : Visit state next)
    : eraseAll next.1 next.2 = eraseAll state.1 state.2 := by
  refine Array.ext_getElem? fun index => ?_
  cases visit with
  | @skip nodes id front back missing =>
      by_cases same : index = id
      · subst index
        rw [eraseAll_missing missing, eraseAll_missing missing]
      · refine eraseAll_congr ?_ rfl
        rw [reached_perm List.perm_middle, reached_cons_missing missing same]
  | @erase nodes id node front back found =>
      have moved : (front ++ node.children ++ back).Perm (node.children ++ (front ++ back)) := by
        rw [← List.append_assoc]
        exact List.perm_append_comm.append_right back
      have reached_iff {other : NodeId}
          : Reached nodes (front ++ id :: back) other
            ↔ other = id
              ∨ Reached (nodes.setIfInBounds id node.erased) (front ++ node.children ++ back)
                  other := by
        rw [reached_perm List.perm_middle, reached_visit found, reached_perm moved]
      by_cases same : index = id
      · subst index
        have bound : id < nodes.size := (Array.getElem?_eq_some_iff.mp found).1
        rw [eraseAll_erased (Array.getElem?_setIfInBounds_self_of_lt bound),
          eraseAll_reached (reached_iff.mpr (Or.inl rfl)), found]
        rfl
      · refine eraseAll_congr ?_ ?_
        · rw [reached_iff, or_iff_right same]
        · rw [Array.getElem?_setIfInBounds, if_neg (Ne.symm same)]

/-- Any number of visits leave the outcome as it was, by induction on them. -/
theorem visits_eraseAll_eq {state next : Array Node × List NodeId}
    (visits : ReflTransGen Visit state next)
    : eraseAll next.1 next.2 = eraseAll state.1 state.2 := by
  induction visits with
  | refl => rfl
  | tail _ visit ih => exact visit.eraseAll_eq.trans ih

/-- A loop that has stopped has erased what the pending indices reached. -/
theorem visits_stopped {state : Array Node × List NodeId}
    (visits : ReflTransGen Visit (nodes, pending) state) (stopped : ∀ next, ¬ Visit state next)
    : state = (eraseAll nodes pending, []) := by
  have outcome := visits_eraseAll_eq visits
  obtain ⟨left, rest⟩ := state
  obtain rfl := pending_eq_nil stopped
  rw [eraseAll] at outcome
  exact Prod.ext outcome rfl

/-- The loop that a removal runs, once the former parent has released the node, ends in any order
with the nodes that the removal leaves.
-/
theorem remove_visits (found : root < forest.size)
    : let released := forest.update (forest.parentOf (some root)) (·.release root)
      Acc (fun next state => Visit state next) (released.nodes, [root])
      ∧ ∀ state,
          ReflTransGen Visit (released.nodes, [root]) state
          → (∀ next, ¬ Visit state next)
          → state = ((forest.remove (some root)).nodes, []) := by
  intro released
  obtain ⟨node, present⟩ := nodes_isSome_iff.mpr found
  have parent : forest.parentOf (some root) = node.parent := by simp [parentOf, present]
  refine ⟨visit_wellFounded.apply _, fun state visits stopped => ?_⟩
  rw [visits_stopped visits stopped, remove_found present, ← parent]

-----------------------------------------------------------------------------------------
-- A second removal changes nothing
-----------------------------------------------------------------------------------------

theorem eq_of_nodes {before after : Forest}
    (nodes : ∀ id : NodeId, after.nodes[id]? = before.nodes[id]?)
    (names : after.interner = before.interner)
    : after = before := by
  have same : after.nodes = before.nodes := Array.ext_getElem? nodes
  cases after
  cases before
  simp_all

/-- What has been removed has no parent and no children that another removal could take. -/
theorem remove_remove (forest : Forest) (ref : NodeRef)
    : (forest.remove ref).remove ref = forest.remove ref := by
  cases ref with
  | none => rfl
  | some root =>
      by_cases found : root < forest.size
      · obtain ⟨detached, childless, _⟩ := queries_remove_below found .refl found
        refine eq_of_nodes (fun id => ?_) (interner_remove (some root))
        by_cases below : (forest.remove (some root)).Below root id
        · rcases below.cases_head with rfl | ⟨child, listed, _⟩
          · rw [nodes_remove_below (by simpa using found) .refl, nodes_remove_below found .refl,
              Option.map_map]
            rfl
          · rw [lists_iff, childless] at listed
            cases listed
        · rw [nodes_remove_apart below]
          simp [detached]
      · have missing : forest.nodes[root]? = none := by simpa [size] using found
        rw [remove_missing missing, remove_missing missing]

-----------------------------------------------------------------------------------------
-- Who notices a removal
-----------------------------------------------------------------------------------------

/-- `after` is `before` without the child: it is out of the child list, where the others keep their
order, and out of the type slot. Everything else is the same.
-/
structure Loses (before after : Node) (child : NodeId) : Prop where
  parent : after.parent = before.parent
  span : after.span = before.span
  children : after.children = before.children.filter (· ≠ child)
  vacated
    : ∀ data,
        before.data = .property data
        → data.typeSlot = some child
        → after.data = .property { data with typeSlot := none }
  other
    : (∀ data, before.data = .property data → data.typeSlot ≠ some child)
      → after.data = before.data

theorem loses_release (node : Node) (child : NodeId) : Loses node (node.release child) child where
  parent := rfl
  span := rfl
  children := rfl
  vacated data content filled := by simp [Node.release, content, filled]
  other free := by
    cases content : node.data with
    | property data => simp [Node.release, content, free data content]
    | _ => simp [Node.release, content]

/-- The removed nodes are those of before, the node, and what it stands above. -/
theorem Linked.kind?_remove_iff (linked : forest.Linked) (found : root < forest.size)
    : (forest.remove (some root)).kind? (some id) = some .removed
      ↔ forest.kind? (some id) = some .removed ∨ forest.Above root id := by
  by_cases above : forest.Above root id
  · have known := linked.below_lt_size found (linked.above_iff_below.mp above)
    simp [linked.kind?_remove_above known above, above]
  · rw [kind?_remove_apart (mt linked.above_iff_below.mpr above), or_iff_left above]

/-- The former parent stands above the node, not below it. -/
theorem Coherent.not_above_parent (coherent : forest.Coherent) (layered : forest.Layered)
    {parent : NodeId} (link : forest.parentOf (some root) = some parent)
    : ¬ forest.Above root parent := by
  intro above
  have below := coherent.linked.above_iff_below.mp above
  have up := coherent.rank_le_of_below layered below
  exact Nat.not_lt.mpr up (coherent.rank_lt layered link)

/-- A removal takes out exactly one subtree. After every history in which no declaration is put
below a type reference, the nodes that are removed by removing an existing one are the node and its
descendants, which lose their parents and children; of the others only the former parent changes,
and it loses the node and nothing else. The loop of the removal ends, in whatever order it visits
the nodes, and a second removal changes nothing.
-/
theorem removal_takes_one_subtree {forest : Forest} (reachable : Reachable Declarable forest)
    {root : NodeId} (found : root < forest.size)
    : let after := forest.remove (some root)
      let released := forest.update (forest.parentOf (some root)) (·.release root)
      (∀ id,
        after.kind? (some id) = some .removed
        ↔ forest.kind? (some id) = some .removed ∨ forest.Above root id)
      ∧ (∀ id,
          forest.Above root id
          → ∃ old,
              forest.nodes[id]? = some old
              ∧ after.nodes[id]?
                = some { old with parent := none, children := [], data := .removed })
      ∧ (∀ parent,
          forest.parentOf (some root) = some parent
          → ¬ forest.Above root parent
            ∧ ∃ old new,
                forest.nodes[parent]? = some old
                ∧ after.nodes[parent]? = some new
                ∧ Loses old new root)
      ∧ (∀ id,
          ¬ forest.Above root id
          → forest.parentOf (some root) ≠ some id
          → after.nodes[id]? = forest.nodes[id]?)
      ∧ after.size = forest.size
      ∧ after.interner = forest.interner
      ∧ Acc (fun next state => Visit state next) (released.nodes, [root])
      ∧ (∀ state,
          ReflTransGen Visit (released.nodes, [root]) state
          → (∀ next, ¬ Visit state next)
          → state = (after.nodes, []))
      ∧ after.remove (some root) = after := by
  obtain ⟨coherent, layered⟩ := reachable_sound reachable
  have linked := coherent.linked
  obtain ⟨ends, outcome⟩ := remove_visits found
  intro after released
  refine ⟨fun id => linked.kind?_remove_iff found, ?_, ?_, ?_, size_remove _,
    interner_remove _, ends, outcome, remove_remove forest (some root)⟩
  · intro id above
    have below := linked.above_iff_below.mp above
    obtain ⟨old, present⟩ := nodes_isSome_iff.mpr (linked.below_lt_size found below)
    refine ⟨old, present, ?_⟩
    rw [nodes_remove_below found below, present]
    rfl
  · intro parent link
    have apart := coherent.not_above_parent layered link
    obtain ⟨old, present⟩ := nodes_isSome_iff.mpr (linked.parent_lt_size link)
    refine ⟨apart, old, old.release root, present, ?_, loses_release old root⟩
    rw [nodes_remove_apart (mt linked.above_iff_below.mpr apart), present, link]
    simp
  · intro id apart other
    rw [nodes_remove_apart (mt linked.above_iff_below.mpr apart)]
    simp [other]

/-- The type in a slot is removed: it is gone, and the slot is empty. -/
theorem retyped_removal_takes_type
    : Reachable Declarable retyped
      ∧ 3 < retyped.size
      ∧ (retyped.remove (some 3)).kind? (some 3) = some .removed
      ∧ (∃ old new,
          retyped.nodes[1]? = some old
          ∧ (retyped.remove (some 3)).nodes[1]? = some new
          ∧ Loses old new 3)
      ∧ (retyped.remove (some 3)).nodes[0]? = retyped.nodes[0]?
      ∧ (retyped.remove (some 3)).remove (some 3) = retyped.remove (some 3) := by
  have found : 3 < retyped.size := by
    have size : retyped.size = 4 := by cbv
    rw [size]
    decide
  have link : retyped.parentOf (some 3) = some 1 := by cbv
  obtain ⟨kinds, _, former, others, _, _, _, _, again⟩ :=
    removal_takes_one_subtree retyped_reachable found
  have apart : ¬ retyped.Above 3 0 := by
    intro above
    have gone := (kinds 0).mpr (Or.inr above)
    have kind : (retyped.remove (some 3)).kind? (some 0) = some .sourceFile := by cbv
    rw [kind] at gone
    cases gone
  exact ⟨retyped_reachable, found, (kinds 3).mpr (Or.inr .refl), (former 1 link).2,
    others 0 apart (by rw [link]; decide), again⟩

end PropertyLint.Forest
