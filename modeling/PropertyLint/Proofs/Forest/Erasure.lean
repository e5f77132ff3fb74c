import PropertyLint.Proofs.Forest.NodeView

/-! Removal erases exactly the nodes at and below the removed one.
The walk that erases drains child lists while it follows them. What is pending reaches the same
nodes before and after each visit, so no assumption on the shape of the forest is needed.
-/

namespace PropertyLint.Forest

open Relation (ReflTransGen)

-----------------------------------------------------------------------------------------
-- A visit keeps what the pending nodes reach
-----------------------------------------------------------------------------------------

/-- One of the pending nodes is `id` or reaches it through child lists. -/
def Reached (nodes : Array Node) (pending : List NodeId) (id : NodeId) : Prop :=
  ∃ root ∈ pending, ReflTransGen (Lists nodes) root id

theorem not_reached_nil {nodes : Array Node} {id : NodeId} : ¬ Reached nodes [] id := by
  intro given
  rcases given with ⟨root, member, _⟩
  cases member

theorem reached_singleton {nodes : Array Node} {root id : NodeId}
    : Reached nodes [root] id ↔ ReflTransGen (Lists nodes) root id := by
  simp [Reached]

/-- A missing node reaches itself only, so dropping it loses no existing node. -/
theorem reached_cons_missing {nodes : Array Node} {first id : NodeId} {rest : List NodeId}
    (missing : nodes[first]? = none) (other : id ≠ first)
    : Reached nodes (first :: rest) id ↔ Reached nodes rest id := by
  constructor
  · intro given
    rcases given with ⟨root, member, path⟩
    rcases List.mem_cons.mp member with rfl | member
    · rcases path.cases_head with same | ⟨_, ⟨node, found, _⟩, _⟩
      · exact absurd same.symm other
      · simp [missing] at found
    · exact ⟨root, member, path⟩
  · intro given
    rcases given with ⟨root, member, path⟩
    exact ⟨root, List.mem_cons_of_mem first member, path⟩

/-- A child list is the same after another node has been erased. -/
theorem lists_erased_iff {nodes : Array Node} {first parent child : NodeId} {node : Node}
    (other : parent ≠ first)
    : Lists (nodes.setIfInBounds first node.erased) parent child ↔ Lists nodes parent child := by
  simp [Lists, Ne.symm other]

/-- An erased node lists no child. -/
theorem not_lists_erased {nodes : Array Node} {first child : NodeId} {node : Node}
    : ¬ Lists (nodes.setIfInBounds first node.erased) first child := by
  intro given
  rcases given with ⟨erased, found, member⟩
  rw [Array.getElem?_setIfInBounds] at found
  simp only [if_true] at found
  split at found
  · obtain rfl := Option.some.inj found
    simp [Node.erased] at member
  · cases found

/-- Erasing a visited node and turning its links into pending nodes reaches the same others.
A path through the visited node starts anew at the child by which it leaves that node last.
-/
theorem reached_visit {nodes : Array Node} {first id : NodeId} {node : Node}
    {rest : List NodeId} (found : nodes[first]? = some node)
    : Reached nodes (first :: rest) id
      ↔ id = first
        ∨ Reached (nodes.setIfInBounds first node.erased) (node.children ++ rest) id := by
  have child_reached {child : NodeId} (listed : Lists nodes first child)
      : Reached (nodes.setIfInBounds first node.erased) (node.children ++ rest) child := by
    obtain ⟨same, again, member⟩ := listed
    obtain rfl := Option.some.inj (found.symm.trans again)
    exact ⟨child, List.mem_append_left rest member, .refl⟩
  constructor
  · intro given
    rcases given with ⟨root, member, path⟩
    induction path with
    | refl =>
        rcases List.mem_cons.mp member with same | later
        · exact Or.inl same
        · exact Or.inr ⟨root, List.mem_append_right _ later, .refl⟩
    | @tail middle child _ listed ih =>
        rcases ih with rfl | ⟨start, pending, before⟩
        · exact Or.inr (child_reached listed)
        · by_cases again : middle = first
          · exact Or.inr (child_reached (again ▸ listed))
          · exact Or.inr ⟨start, pending, before.tail ((lists_erased_iff again).mpr listed)⟩
  · intro given
    rcases given with rfl | ⟨root, member, path⟩
    · exact ⟨id, List.mem_cons_self, .refl⟩
    · have unerased : ReflTransGen (Lists nodes) root id := by
        refine ReflTransGen.mono (fun parent child listed => ?_) _ _ path
        have other : parent ≠ first := by
          intro equal
          subst equal
          exact not_lists_erased listed
        exact (lists_erased_iff other).mp listed
      rcases List.mem_append.mp member with child | later
      · exact ⟨first, List.mem_cons_self, .head ⟨node, found, child⟩ unerased⟩
      · exact ⟨root, List.mem_cons_of_mem first later, unerased⟩

-----------------------------------------------------------------------------------------
-- The walk erases what it reaches and nothing else
-----------------------------------------------------------------------------------------

/-- Erasing keeps every index in place. -/
@[simp] theorem size_eraseAll (nodes : Array Node) (pending : List NodeId)
    : (eraseAll nodes pending).size = nodes.size := by
  fun_induction eraseAll nodes pending with
  | case1 => rfl
  | case2 nodes id rest missing ih => exact ih
  | case3 nodes id rest node found ih => simpa using ih

/-- What is not reached stays as it is, by induction on the visits. -/
theorem eraseAll_kept {nodes : Array Node} {pending : List NodeId} {id : NodeId}
    (apart : ¬ Reached nodes pending id)
    : (eraseAll nodes pending)[id]? = nodes[id]? := by
  fun_induction eraseAll nodes pending with
  | case1 => rfl
  | case2 nodes first rest missing ih =>
      refine ih fun ⟨root, member, path⟩ => apart ?_
      exact ⟨root, List.mem_cons_of_mem first member, path⟩
  | case3 nodes first rest node found ih =>
      rw [reached_visit found, not_or] at apart
      rw [ih apart.2, Array.getElem?_setIfInBounds, if_neg (Ne.symm apart.1)]

/-- What is reached is erased, by induction on the visits. A node that is reached again after its
own visit has been erased already, which erasing again does not change.
-/
theorem eraseAll_reached {nodes : Array Node} {pending : List NodeId} {id : NodeId}
    (reached : Reached nodes pending id)
    : (eraseAll nodes pending)[id]? = (nodes[id]?).map Node.erased := by
  fun_induction eraseAll nodes pending with
  | case1 => exact absurd reached not_reached_nil
  | case2 nodes first rest missing ih =>
      by_cases later : Reached nodes rest id
      · exact ih later
      · have same : id = first := Classical.byContradiction fun other =>
          later ((reached_cons_missing missing other).mp reached)
        rw [eraseAll_kept later, same, missing]
        rfl
  | case3 nodes first rest node found ih =>
      have bound : first < nodes.size := (Array.getElem?_eq_some_iff.mp found).1
      by_cases same : id = first
      · subst id
        by_cases again
          : Reached (nodes.setIfInBounds first node.erased) (node.children ++ rest) first
        · rw [ih again, Array.getElem?_setIfInBounds_self_of_lt bound, found]
          rfl
        · rw [eraseAll_kept again, Array.getElem?_setIfInBounds_self_of_lt bound, found]
          rfl
      · have later := ((reached_visit found).mp reached).resolve_left same
        rw [ih later, Array.getElem?_setIfInBounds, if_neg (Ne.symm same)]

-----------------------------------------------------------------------------------------
-- Removal erases the nodes at and below the removed one
-----------------------------------------------------------------------------------------

variable {forest : Forest} {id root : NodeId}

@[simp] theorem remove_none : forest.remove none = forest := rfl

/-- Removing a node that does not exist changes nothing. -/
theorem remove_missing (missing : forest.nodes[root]? = none)
    : forest.remove (some root) = forest := by
  unfold remove
  split
  · rename_i found
    simp [missing] at found
  · rfl

/-- A removal changes nothing, or it names a node of the forest. -/
theorem remove_cases (ref : NodeRef)
    : forest.remove ref = forest ∨ ∃ root, ref = some root ∧ root < forest.size := by
  cases ref with
  | none => exact Or.inl rfl
  | some root =>
      cases found : forest.nodes[root]? with
      | none => exact Or.inl (remove_missing found)
      | some node => exact Or.inr ⟨root, rfl, lt_size_of_found found⟩

/-- Removal releases the node from its parent and erases from there. -/
theorem remove_found {node : Node} (found : forest.nodes[root]? = some node)
    : forest.remove (some root)
      = { forest.update node.parent (·.release root) with
          nodes := eraseAll (forest.update node.parent (·.release root)).nodes [root] } := by
  unfold remove
  simp [found]

@[simp] theorem size_remove (ref : NodeRef) : (forest.remove ref).size = forest.size := by
  cases ref with
  | none => rfl
  | some root =>
      cases found : forest.nodes[root]? with
      | none => rw [remove_missing found]
      | some node =>
          have kept : (forest.update node.parent (·.release root)).size = _ := size_update _
          rw [remove_found found]
          simpa [size] using kept

@[simp] theorem interner_remove (ref : NodeRef)
    : (forest.remove ref).interner = forest.interner := by
  cases ref with
  | none => rfl
  | some root =>
      cases found : forest.nodes[root]? with
      | none => rw [remove_missing found]
      | some node => simp [remove_found found]

/-- Releasing a node from its parent loses no path that starts at the node: such a path need not
come back to it.
-/
theorem below_release_iff (ref : NodeRef)
    : ReflTransGen (Lists (forest.update ref (·.release root)).nodes) root id
      ↔ forest.Below root id := by
  have released_iff {parent child : NodeId}
      : Lists (forest.update ref (·.release root)).nodes parent child
        ↔ Lists forest.nodes parent child ∧ (ref = some parent → child ≠ root) := by
    simp only [Lists, nodes_update]
    by_cases same : ref = some parent
    · cases forest.nodes[parent]? <;> simp [same, Node.release]
    · simp [same]
  constructor
  · exact ReflTransGen.mono (fun _ _ listed => (released_iff.mp listed).1) _ _
  · intro path
    induction path with
    | refl => exact .refl
    | @tail middle child _ listed ih =>
        by_cases same : child = root
        · exact same ▸ .refl
        · exact ih.tail (released_iff.mpr ⟨listed, fun _ => same⟩)

/-- A node at or below the removed one is erased. -/
theorem nodes_remove_below (found : root < forest.size) (below : forest.Below root id)
    : (forest.remove (some root)).nodes[id]? = (forest.nodes[id]?).map Node.erased := by
  obtain ⟨node, found⟩ := nodes_isSome_iff.mpr found
  have reached : Reached (forest.update node.parent (·.release root)).nodes [root] id :=
    reached_singleton.mpr ((below_release_iff node.parent).mpr below)
  rw [remove_found found, eraseAll_reached reached, nodes_update, Option.map_map]
  congr 1
  funext old
  by_cases same : node.parent = some id
  · simp [same, Node.erased, Node.release]
  · simp [same]

/-- Any other node stays, except that the former parent releases the removed node. -/
theorem nodes_remove_apart (apart : ¬ forest.Below root id)
    : (forest.remove (some root)).nodes[id]?
      = (forest.nodes[id]?).map fun node =>
          if forest.parentOf (some root) = some id then node.release root else node := by
  cases found : forest.nodes[root]? with
  | none => simp [remove_missing found, parentOf, found]
  | some node =>
      have kept : ¬ Reached (forest.update node.parent (·.release root)).nodes [root] id :=
        fun reached => apart ((below_release_iff _).mp (reached_singleton.mp reached))
      rw [remove_found found, eraseAll_kept kept, nodes_update]
      simp [parentOf, found]

/-- What an erased node says of itself: it has no place and no content. -/
theorem queries_remove_below (found : root < forest.size) (below : forest.Below root id)
    (known : id < forest.size)
    : (forest.remove (some root)).parentOf (some id) = none
      ∧ (forest.remove (some root)).childrenOf (some id) = []
      ∧ (forest.remove (some root)).content? (some id) = some .removed := by
  obtain ⟨node, present⟩ := nodes_isSome_iff.mpr known
  simp [parentOf, childrenOf, content?, nodes_remove_below found below, present, Node.erased]

theorem parentOf_remove_apart (apart : ¬ forest.Below root id)
    : (forest.remove (some root)).parentOf (some id) = forest.parentOf (some id) := by
  unfold parentOf
  simp only [node?_some, nodes_remove_apart apart]
  cases forest.nodes[id]? with
  | none => rfl
  | some node =>
      by_cases former : forest.parentOf (some root) = some id <;> simp [former, Node.release]

theorem childrenOf_remove_apart (apart : ¬ forest.Below root id)
    : (forest.remove (some root)).childrenOf (some id)
      = if forest.parentOf (some root) = some id
        then (forest.childrenOf (some id)).filter (· ≠ root)
        else forest.childrenOf (some id) := by
  unfold childrenOf
  simp only [node?_some, nodes_remove_apart apart]
  cases forest.nodes[id]? with
  | none => simp
  | some node =>
      by_cases former : forest.parentOf (some root) = some id <;> simp [former, Node.release]

/-- Takes a node out of the type slot, if it stands there. -/
def released (data : PropertyData) (id : NodeId) : PropertyData :=
  if data.typeSlot = some id then { data with typeSlot := none } else data

theorem property?_remove_apart (apart : ¬ forest.Below root id)
    : (forest.remove (some root)).property? (some id)
      = (forest.property? (some id)).map fun data =>
          if forest.parentOf (some root) = some id then released data root else data := by
  unfold property?
  simp only [node?_some, nodes_remove_apart apart]
  cases forest.nodes[id]? with
  | none => rfl
  | some node =>
      by_cases former : forest.parentOf (some root) = some id
      · cases content : node.data <;> simp [former, Node.release, content, released]
      · cases content : node.data <;> simp [former, content]

theorem typeReference?_remove_apart (apart : ¬ forest.Below root id)
    : (forest.remove (some root)).typeReference? (some id)
      = forest.typeReference? (some id) := by
  unfold typeReference?
  simp only [node?_some, nodes_remove_apart apart]
  cases forest.nodes[id]? with
  | none => rfl
  | some node =>
      by_cases former : forest.parentOf (some root) = some id
      · cases content : node.data <;> simp [former, Node.release, content]
      · simp [former]

/-- A content that is no property's stays in place. -/
theorem content?_remove_apart (apart : ¬ forest.Below root id)
    (other : forest.property? (some id) = none)
    : (forest.remove (some root)).content? (some id) = forest.content? (some id) := by
  unfold property? at other
  unfold content?
  simp only [node?_some, nodes_remove_apart apart] at other ⊢
  cases present : forest.nodes[id]? with
  | none => rfl
  | some node =>
      by_cases former : forest.parentOf (some root) = some id
      · cases content : node.data <;> simp_all [Node.release]
      · simp [former]

theorem kind?_remove_apart (apart : ¬ forest.Below root id)
    : (forest.remove (some root)).kind? (some id) = forest.kind? (some id) := by
  unfold kind?
  simp only [node?_some, nodes_remove_apart apart, Option.map_map]
  cases forest.nodes[id]? with
  | none => rfl
  | some node =>
      by_cases former : forest.parentOf (some root) = some id
      · cases content : node.data <;> simp [former, Node.release, content, Node.kind, NodeData.kind]
      · simp [former]

end PropertyLint.Forest
