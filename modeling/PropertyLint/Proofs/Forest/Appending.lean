import PropertyLint.Proofs.Forest.TypeTrees

/-! Adding a type expression to any forest appends a detached tree of fresh type references.
Arguments are made before the type that adopts them, so a tree grows from its leaves. Nothing is
assumed of the forest: earlier nodes and names stay as they are, however they are linked.
-/

namespace PropertyLint.Forest

variable {forest before middle after : Forest} {id parent : NodeId} {ids : List NodeId}

-----------------------------------------------------------------------------------------
-- A new node adopts detached nodes in order
-----------------------------------------------------------------------------------------

/-- Moves nodes below `parent`, from left to right. -/
def adopt (forest : Forest) (parent : NodeId) (ids : List NodeId) : Forest :=
  ids.foldl (fun forest id => forest.reparent id (some parent)) forest

@[simp] theorem size_reparent (child : NodeId) (ref : NodeRef)
    : (forest.reparent child ref).size = forest.size := by
  unfold reparent
  split <;> simp

@[simp] theorem interner_reparent (child : NodeId) (ref : NodeRef)
    : (forest.reparent child ref).interner = forest.interner := by
  unfold reparent
  split <;> simp

/-- Moving a detached node changes its parent and the child list there, and nothing else. -/
theorem nodes_reparent {child target : NodeId} (found : child < forest.size)
    (free : forest.parentOf (some child) = none)
    (unlisted : child ∉ forest.childrenOf (some target)) (other : child ≠ target)
    : (forest.reparent child (some target)).nodes[id]?
      = (forest.nodes[id]?).map fun node =>
          { node with
            parent := if id = child then some target else node.parent
            children := if id = target then node.children ++ [child] else node.children } := by
  obtain ⟨node, present⟩ := nodes_isSome_iff.mpr found
  have rootless : node.parent = none := by simpa [parentOf, present] using free
  simp only [reparent, node?_some, present, nodes_update, Option.map_map, rootless]
  cases here : forest.nodes[id]? with
  | none => rfl
  | some old =>
      have absent : id = target → child ∉ old.children := by
        intro equal
        subst equal
        simpa [childrenOf, here] using unlisted
      by_cases same : id = child
      · subst id
        simp [other, Ne.symm other]
      · by_cases last : id = target
        · simp [last, absent last, other, Ne.symm other]
        · simp [same, last, Ne.symm same, Ne.symm last]

/-- What a parent can adopt: detached type references from before it, each once. -/
structure Adoptable (forest : Forest) (parent : NodeId) (ids : List NodeId) : Prop where
  found : parent < forest.size
  older : ∀ id ∈ ids, id < parent
  free : ∀ id ∈ ids, forest.parentOf (some id) = none
  typed : ∀ id ∈ ids, forest.isTypeReference id
  unique : ids.Nodup

@[simp] theorem size_adopt : (forest.adopt parent ids).size = forest.size := by
  induction ids generalizing forest with
  | nil => rfl
  | cons first rest ih => exact ih.trans (size_reparent first (some parent))

@[simp] theorem interner_adopt : (forest.adopt parent ids).interner = forest.interner := by
  induction ids generalizing forest with
  | nil => rfl
  | cons first rest ih => exact ih.trans (interner_reparent first (some parent))

section First

variable {first : NodeId} {rest : List NodeId} (adoptable : Adoptable forest parent (first :: rest))
  (unlisted : ∀ child ∈ first :: rest, child ∉ forest.childrenOf (some parent))

include adoptable unlisted

theorem Adoptable.nodes_reparent_first
    : (forest.reparent first (some parent)).nodes[id]?
      = (forest.nodes[id]?).map fun node =>
          { node with
            parent := if id = first then some parent else node.parent
            children := if id = parent then node.children ++ [first] else node.children } := by
  have older := adoptable.older first List.mem_cons_self
  exact nodes_reparent (Nat.lt_trans older adoptable.found)
    (adoptable.free first List.mem_cons_self) (unlisted first List.mem_cons_self)
    (Nat.ne_of_lt older)

/-- Once the first node has moved, the others can still be adopted. -/
theorem Adoptable.remaining : Adoptable (forest.reparent first (some parent)) parent rest where
  found := by simpa using adoptable.found
  older child member := adoptable.older child (List.mem_cons_of_mem first member)
  free child member := by
    have fresh := (List.nodup_cons.mp adoptable.unique).1
    have other : child ≠ first := fun same => fresh (same ▸ member)
    have rootless := adoptable.free child (List.mem_cons_of_mem first member)
    unfold parentOf at rootless ⊢
    simp only [node?_some, adoptable.nodes_reparent_first unlisted, if_neg other]
    cases here : forest.nodes[child]? <;> simp_all
  typed child member := by
    have typed := adoptable.typed child (List.mem_cons_of_mem first member)
    unfold isTypeReference kind? at typed ⊢
    simp only [node?_some, adoptable.nodes_reparent_first unlisted, Option.map_map]
    simpa [Function.comp_def, Node.kind] using typed
  unique := (List.nodup_cons.mp adoptable.unique).2

theorem Adoptable.unlisted_remaining
    : ∀ child ∈ rest, child ∉ (forest.reparent first (some parent)).childrenOf (some parent) := by
  intro child member listed
  have fresh := (List.nodup_cons.mp adoptable.unique).1
  have other : child ≠ first := fun same => fresh (same ▸ member)
  have absent := unlisted child (List.mem_cons_of_mem first member)
  unfold childrenOf at listed absent
  simp only [node?_some, adoptable.nodes_reparent_first unlisted] at listed absent
  cases here : forest.nodes[parent]? <;> simp_all

end First

/-- Adoption enters the links of all adopted nodes, in order, by induction on them. -/
theorem nodes_adopt (adoptable : Adoptable forest parent ids)
    (unlisted : ∀ child ∈ ids, child ∉ forest.childrenOf (some parent))
    : (forest.adopt parent ids).nodes[id]?
      = (forest.nodes[id]?).map fun node =>
          { node with
            parent := if id ∈ ids then some parent else node.parent
            children := if id = parent then node.children ++ ids else node.children } := by
  induction ids generalizing forest with
  | nil => simp [adopt]
  | cons first rest ih =>
      change ((forest.reparent first (some parent)).adopt parent rest).nodes[id]? = _
      rw [ih (adoptable.remaining unlisted) (adoptable.unlisted_remaining unlisted),
        adoptable.nodes_reparent_first unlisted, Option.map_map]
      congr 1
      funext node
      simp only [Function.comp_apply, List.mem_cons, Node.mk.injEq, and_true, true_and]
      exact ⟨by grind, by grind⟩

section Adopt

variable (adoptable : Adoptable forest parent ids)
  (unlisted : ∀ child ∈ ids, child ∉ forest.childrenOf (some parent))

include adoptable unlisted

theorem Adoptable.parentOf_adopt
    : (forest.adopt parent ids).parentOf (some id)
      = if id ∈ ids then some parent else forest.parentOf (some id) := by
  unfold parentOf
  simp only [node?_some, nodes_adopt adoptable unlisted]
  split
  · rename_i member
    have known := Nat.lt_trans (adoptable.older id member) adoptable.found
    obtain ⟨node, present⟩ := nodes_isSome_iff.mpr known
    simp [present]
  · rw [Option.bind_map]
    rfl

theorem Adoptable.childrenOf_adopt
    : (forest.adopt parent ids).childrenOf (some id)
      = if id = parent then forest.childrenOf (some id) ++ ids
        else forest.childrenOf (some id) := by
  unfold childrenOf
  simp only [node?_some, nodes_adopt adoptable unlisted]
  by_cases last : id = parent
  · obtain ⟨node, present⟩ := nodes_isSome_iff.mpr adoptable.found
    simp [last, present]
  · simp [last, Option.map_map, Function.comp_def]

theorem Adoptable.content?_adopt
    : (forest.adopt parent ids).content? (some id) = forest.content? (some id) := by
  unfold content?
  simp only [node?_some, nodes_adopt adoptable unlisted, Option.map_map]
  rfl

theorem Adoptable.isTypeReference_adopt
    : (forest.adopt parent ids).isTypeReference id = forest.isTypeReference id := by
  simp only [isTypeReference, kind?_eq, adoptable.content?_adopt unlisted]

end Adopt

-----------------------------------------------------------------------------------------
-- Growth by type references
-----------------------------------------------------------------------------------------

/-- `after` is `before` with type references appended: earlier nodes and names are kept. -/
structure Grown (before after : Forest) : Prop where
  size_le : before.size ≤ after.size
  kept : ∀ id < before.size, after.nodes[id]? = before.nodes[id]?
  typed : ∀ id < after.size, before.size ≤ id → after.isTypeReference id
  names : before.interner.Extends after.interner

theorem Grown.refl (forest : Forest) : Grown forest forest where
  size_le := Nat.le_refl _
  kept _ _ := rfl
  typed _ known fresh := absurd known (Nat.not_lt.mpr fresh)
  names := .refl _

theorem Grown.parentOf (grown : Grown before after) (known : id < before.size)
    : after.parentOf (some id) = before.parentOf (some id) := by
  simp [Forest.parentOf, grown.kept id known]

theorem Grown.childrenOf (grown : Grown before after) (known : id < before.size)
    : after.childrenOf (some id) = before.childrenOf (some id) := by
  simp [Forest.childrenOf, grown.kept id known]

theorem Grown.content? (grown : Grown before after) (known : id < before.size)
    : after.content? (some id) = before.content? (some id) := by
  simp [Forest.content?, grown.kept id known]

theorem Grown.contents (grown : Grown before after)
    : ∀ id < before.size,
        after.content? (some id) = before.content? (some id)
        ∧ after.childrenOf (some id) = before.childrenOf (some id) :=
  fun _ known => ⟨grown.content? known, grown.childrenOf known⟩

theorem Grown.isTypeReference (grown : Grown before after) (known : id < before.size)
    : after.isTypeReference id = before.isTypeReference id := by
  simp only [Forest.isTypeReference, kind?_eq, grown.content? known]

theorem Grown.trans {middle : Forest} (first : Grown before middle)
    (second : Grown middle after)
    : Grown before after where
  size_le := Nat.le_trans first.size_le second.size_le
  kept id known := by
    have later := second.kept id (Nat.lt_of_lt_of_le known first.size_le)
    exact later.trans (first.kept id known)
  typed id known fresh := by
    by_cases early : id < middle.size
    · rw [second.isTypeReference early]
      exact first.typed id early fresh
    · exact second.typed id known (Nat.not_lt.mp early)
  names := first.names.trans second.names

theorem Grown.internAll (forest : Forest) (texts : List String)
    : Grown forest (forest.internAll texts).2 where
  size_le := Nat.le_refl _
  kept _ _ := rfl
  typed _ known fresh := absurd known (Nat.not_lt.mpr fresh)
  names := forest.interner.internAll_extends texts

theorem known_none : forest.Known none := by
  intro id same
  cases same

theorem known_some (known : id < forest.size) : forest.Known (some id) := by
  intro other same
  exact Option.some.inj same ▸ known

theorem Grown.push_type (forest : Forest) (span : Span) (data : TypeReferenceData)
    : Grown forest (forest.push none span (.typeReference data)).2 where
  size_le := by simp
  kept id known := by
    have old : id ≠ forest.size := Nat.ne_of_lt known
    rw [nodes_push known_none, if_neg old]
    cases forest.nodes[id]? <;> rfl
  typed id known fresh := by
    rw [size_push] at known
    have last : id = forest.size := Nat.le_antisymm (Nat.lt_succ_iff.mp known) fresh
    simp [isTypeReference_push known_none, last, NodeData.kind]
  names := by
    rw [interner_push]
    exact .refl _

theorem Grown.adopt (grown : Grown before middle) (adoptable : Adoptable middle parent ids)
    (unlisted : ∀ child ∈ ids, child ∉ middle.childrenOf (some parent))
    (last : before.size ≤ parent) (fresh : ∀ id ∈ ids, before.size ≤ id)
    : Grown before (middle.adopt parent ids) where
  size_le := by simpa using grown.size_le
  kept id known := by
    have member : id ∉ ids := fun member => absurd known (Nat.not_lt.mpr (fresh id member))
    have other : id ≠ parent := Nat.ne_of_lt (Nat.lt_of_lt_of_le known last)
    rw [nodes_adopt adoptable unlisted, grown.kept id known]
    simp [member, other]
  typed id known old := by
    rw [adoptable.isTypeReference_adopt unlisted]
    exact grown.typed id (by simpa using known) old
  names := by simpa using grown.names

-----------------------------------------------------------------------------------------
-- An added expression is made of fresh nodes
-----------------------------------------------------------------------------------------

/-- What adding expressions does to any forest: it grows by fresh detached roots. -/
structure Appended (before after : Forest) (roots : List NodeId) : Prop where
  grown : Grown before after
  fresh : ∀ id ∈ roots, before.size ≤ id ∧ id < after.size
  free : ∀ id ∈ roots, after.parentOf (some id) = none
  unique : roots.Nodup

/-- The node that adopts the arguments of a type, just appended to the forest. -/
def withRoot (forest : Forest) (data : TypeReferenceData) : Forest :=
  (forest.push none {} (.typeReference data)).2

section Root

variable (data : TypeReferenceData)

@[simp] theorem size_withRoot : (forest.withRoot data).size = forest.size + 1 :=
  size_push

@[simp] theorem interner_withRoot : (forest.withRoot data).interner = forest.interner :=
  interner_push

theorem content?_withRoot
    : (forest.withRoot data).content? (some forest.size) = some (.typeReference data) := by
  rw [withRoot, content?_push known_none, if_pos rfl]

theorem parentOf_withRoot : (forest.withRoot data).parentOf (some forest.size) = none := by
  rw [withRoot, parentOf_push known_none, if_pos rfl]

/-- The new node has no children, whatever the other nodes list. -/
theorem childrenOf_withRoot : (forest.withRoot data).childrenOf (some forest.size) = [] := by
  rw [withRoot, childrenOf_push known_none, if_neg (by simp)]
  simp [childrenOf, size]

theorem Grown.withRoot : Grown forest (forest.withRoot data) :=
  .push_type forest {} data

end Root

/-- Roots that have been appended can be adopted by the next node. -/
theorem Appended.adoptable (appended : Appended before middle ids) (data : TypeReferenceData)
    : Adoptable (middle.withRoot data) middle.size ids where
  found := by simp
  older id member := (appended.fresh id member).2
  free id member :=
    ((Grown.withRoot data).parentOf (appended.fresh id member).2).trans (appended.free id member)
  typed id member := by
    obtain ⟨fresh, old⟩ := appended.fresh id member
    rw [(Grown.withRoot data).isTypeReference old]
    exact appended.grown.typed id old fresh
  unique := appended.unique

theorem unlisted_withRoot (data : TypeReferenceData)
    : ∀ child ∈ ids, child ∉ (forest.withRoot data).childrenOf (some forest.size) := by
  simp [childrenOf_withRoot]

/-- A new type adopts its arguments, which then are no roots any more. -/
theorem Appended.named (appended : Appended before middle ids) (data : TypeReferenceData)
    : Appended before ((middle.withRoot data).adopt middle.size ids) [middle.size] := by
  have adoptable := appended.adoptable data
  exact {
    grown := (appended.grown.trans (.withRoot data)).adopt adoptable (unlisted_withRoot data)
      appended.grown.size_le fun id member => (appended.fresh id member).1
    fresh := by simpa using appended.grown.size_le
    free := by
      have other : middle.size ∉ ids :=
        fun member => Nat.lt_irrefl _ (appended.fresh _ member).2
      simp [adoptable.parentOf_adopt (unlisted_withRoot data), other, parentOf_withRoot]
    unique := by simp
  }

theorem Appended.nil (forest : Forest) : Appended forest forest [] :=
  ⟨.refl forest, by simp, by simp, by simp⟩

/-- What is appended later leaves the earlier roots as they are. -/
theorem Appended.cons (first : Appended before middle [id]) (later : Appended middle after ids)
    : Appended before after (id :: ids) := by
  obtain ⟨early, old⟩ := first.fresh id (List.mem_singleton_self id)
  refine {
    grown := first.grown.trans later.grown
    fresh := List.forall_mem_cons.mpr
      ⟨⟨early, Nat.lt_of_lt_of_le old later.grown.size_le⟩, fun other member => ?_⟩
    free := List.forall_mem_cons.mpr ⟨?_, later.free⟩
    unique := List.nodup_cons.mpr ⟨fun member => ?_, later.unique⟩
  }
  · have fresh := later.fresh other member
    exact ⟨Nat.le_trans first.grown.size_le fresh.1, fresh.2⟩
  · rw [later.grown.parentOf old]
    exact first.free id (List.mem_singleton_self id)
  · exact absurd old (Nat.not_lt.mpr (later.fresh id member).1)

/-- Names that are interned first change nothing about what is appended. -/
theorem Appended.internAll {texts : List String}
    (appended : Appended (forest.internAll texts).2 after ids)
    : Appended forest after ids :=
  { appended with grown := (Grown.internAll forest texts).trans appended.grown }

/-- An applied type is added as its arguments and a node that adopts them. -/
theorem addType_named (forest : Forest) (name : List String) (arguments : List TypeExpr)
    (nullable : Bool)
    : let named := forest.internAll name
      let inner := named.2.addTypes arguments
      forest.addType (.named name arguments nullable)
        = (inner.2.size,
            (inner.2.withRoot (.named named.1 inner.1 nullable)).adopt inner.2.size inner.1) :=
  rfl

theorem addType_star (forest : Forest)
    : forest.addType .star = (forest.size, (forest.withRoot .star).adopt forest.size []) :=
  rfl

mutual

/-- Adding an expression appends one detached root and what it adopts, by recursion on the
expression.
-/
theorem addType_appended (forest : Forest) (expr : TypeExpr)
    : Appended forest (forest.addType expr).2 [(forest.addType expr).1] := by
  cases expr with
  | star => exact (Appended.nil forest).named .star
  | named name arguments nullable =>
      have inner := addTypes_appended (forest.internAll name).2 arguments
      rw [addType_named]
      exact inner.internAll.named (.named (forest.internAll name).1 _ nullable)
termination_by sizeOf expr

theorem addTypes_appended (forest : Forest) (exprs : List TypeExpr)
    : Appended forest (forest.addTypes exprs).2 (forest.addTypes exprs).1 := by
  cases exprs with
  | nil => exact .nil forest
  | cons expr rest => exact (addType_appended forest expr).cons (addTypes_appended _ rest)
termination_by sizeOf exprs

end

-----------------------------------------------------------------------------------------
-- An added tree spells its expression
-----------------------------------------------------------------------------------------

/-- A tree is kept where everything that exists is kept. -/
theorem Spells.carry (names : before.interner.Extends after.interner) {expr : TypeExpr}
    (spells : before.Spells expr id)
    (kept
      : ∀ id < before.size,
          after.content? (some id) = before.content? (some id)
          ∧ after.childrenOf (some id) = before.childrenOf (some id))
    : after.Spells expr id :=
  spells.keep names fun child below => kept child (spells.below_lt_size below)

theorem SpellsAll.carry (names : before.interner.Extends after.interner) {exprs : List TypeExpr}
    (spells : before.SpellsAll exprs ids)
    (kept
      : ∀ id < before.size,
          after.content? (some id) = before.content? (some id)
          ∧ after.childrenOf (some id) = before.childrenOf (some id))
    : after.SpellsAll exprs ids :=
  spells.keep names fun _ member child below => kept child (spells.below_lt_size member below)

/-- Earlier nodes keep their content and their children, also those that a new root adopts. -/
theorem Appended.kept_named (appended : Appended before middle ids) (data : TypeReferenceData)
    (known : id < middle.size)
    : let named := (middle.withRoot data).adopt middle.size ids
      named.content? (some id) = middle.content? (some id)
        ∧ named.childrenOf (some id) = middle.childrenOf (some id) := by
  have adoptable := appended.adoptable data
  have unlisted : ∀ child ∈ ids, child ∉ (middle.withRoot data).childrenOf (some middle.size) :=
    unlisted_withRoot data
  have other : id ≠ middle.size := Nat.ne_of_lt known
  intro named
  rw [adoptable.content?_adopt unlisted, adoptable.childrenOf_adopt unlisted, if_neg other]
  exact ⟨(Grown.withRoot data).content? known, (Grown.withRoot data).childrenOf known⟩

/-- The root that adopts the trees of the arguments spells the applied type. -/
theorem Appended.spells_named (appended : Appended before middle ids) {atoms : List Atom}
    {name : List String} {arguments : List TypeExpr} (nullable : Bool)
    (names : middle.interner.Names atoms name) (spells : middle.SpellsAll arguments ids)
    : ((middle.withRoot (.named atoms ids nullable)).adopt middle.size ids).Spells
        (.named name arguments nullable) middle.size := by
  have adoptable := appended.adoptable (.named atoms ids nullable)
  have unlisted {data : TypeReferenceData}
      : ∀ child ∈ ids, child ∉ (middle.withRoot data).childrenOf (some middle.size) :=
    unlisted_withRoot data
  simp only [Spells]
  refine ⟨atoms, ids, (adoptable.content?_adopt unlisted).trans (content?_withRoot _), ?_, ?_, ?_⟩
  · rw [adoptable.childrenOf_adopt unlisted, if_pos rfl, childrenOf_withRoot]
    rfl
  · simpa using names
  · exact spells.carry (by simpa using .refl _) fun id known => appended.kept_named _ known

mutual

/-- An added expression is spelled by the tree that has been added, by recursion on the expression.
-/
theorem addType_spells {forest : Forest} (consistent : forest.interner.Consistent)
    (expr : TypeExpr)
    : (forest.addType expr).2.interner.Consistent
      ∧ (forest.addType expr).2.Spells expr (forest.addType expr).1 := by
  cases expr with
  | star =>
      refine ⟨by simpa [addType_star, adopt] using consistent, ?_⟩
      simp [addType_star, adopt, Spells, content?_withRoot, childrenOf_withRoot]
  | named name arguments nullable =>
      have names := consistent.internAll_names name
      have named : (forest.internAll name).2.interner.Consistent := consistent.internAll name
      obtain ⟨inner, spells⟩ := addTypes_spells named arguments
      have appended := addTypes_appended (forest.internAll name).2 arguments
      rw [addType_named]
      exact ⟨by simpa using inner,
        appended.spells_named nullable (names.extend appended.grown.names) spells⟩
termination_by sizeOf expr

theorem addTypes_spells {forest : Forest} (consistent : forest.interner.Consistent)
    (exprs : List TypeExpr)
    : (forest.addTypes exprs).2.interner.Consistent
      ∧ (forest.addTypes exprs).2.SpellsAll exprs (forest.addTypes exprs).1 := by
  cases exprs with
  | nil => exact ⟨consistent, by simp [addTypes, SpellsAll]⟩
  | cons expr rest =>
      obtain ⟨first, spells⟩ := addType_spells consistent expr
      obtain ⟨later, others⟩ := addTypes_spells first rest
      have grown := (addTypes_appended (forest.addType expr).2 rest).grown
      simp only [addTypes, SpellsAll]
      refine ⟨later, _, _, rfl, ?_, others⟩
      exact spells.carry grown.names grown.contents
termination_by sizeOf exprs

end

mutual

/-- An added expression takes at least one node for each of its levels, by recursion on it. -/
theorem nesting_le_size_addType (forest : Forest) (expr : TypeExpr)
    : forest.size + expr.nesting ≤ (forest.addType expr).2.size := by
  cases expr with
  | star => simp [addType_star, adopt, TypeExpr.nesting]
  | named name arguments nullable =>
      have inner := nesting_le_size_addTypes (forest.internAll name).2 arguments
      have levels := TypeExpr.nesting_named_le name arguments nullable
      have same : (forest.internAll name).2.size = forest.size := rfl
      rw [addType_named, size_adopt, size_withRoot]
      omega
termination_by sizeOf expr

theorem nesting_le_size_addTypes (forest : Forest) (exprs : List TypeExpr)
    : forest.size + TypeExpr.nestingAll exprs ≤ (forest.addTypes exprs).2.size := by
  cases exprs with
  | nil => exact Nat.le_refl _
  | cons expr rest =>
      have first := nesting_le_size_addType forest expr
      have others := nesting_le_size_addTypes (forest.addType expr).2 rest
      have grown := (addType_appended forest expr).grown.size_le
      simp only [addTypes, TypeExpr.nestingAll]
      omega
termination_by sizeOf exprs

end

end PropertyLint.Forest
