import PropertyLint.Proofs.Forest.Erasure
import PropertyLint.Proofs.Text.InternerRelation

/-! The invariant of a forest under edit.
A forest keeps the same fact in several places: a link in the parent and in the child list, a type
reference in the slot and below its property, a name in the interner and by its atom. These places
agree after every appended, interned and removed node.
-/

namespace PropertyLint

/-- The names that a content holds. -/
def NodeData.atoms : NodeData → List Atom
  | .classDeclaration name | .functionDeclaration name => [name]
  | .property data => [data.name]
  | .typeReference data => data.name
  | .sourceFile _ | .block | .removed => []

namespace Forest

/-- Whether a type reference stands at the index. -/
def isTypeReference (forest : Forest) (id : NodeId) : Bool :=
  forest.kind? (some id) = some .typeReference

/-- The type references among the children of a node. -/
def annotations (forest : Forest) (id : NodeId) : List NodeId :=
  (forest.childrenOf (some id)).filter forest.isTypeReference

/-- Child lists and parents say the same, for existing and for missing indices; no child is
listed twice; a removed node has no parent.
-/
structure Linked (forest : Forest) : Prop where
  link
    : ∀ parent child,
        child ∈ forest.childrenOf (some parent) ↔ forest.parentOf (some child) = some parent
  unique : ∀ parent, (forest.childrenOf (some parent)).Nodup
  detached : ∀ id, forest.content? (some id) = some .removed → forest.parentOf (some id) = none

/-- The type slot of a property names the only type reference among its children. -/
def Slotted (forest : Forest) : Prop :=
  ∀ id data, forest.property? (some id) = some data → forest.annotations id = data.typeSlot.toList

/-- Indices follow the order of creation: a declaration comes after its parent, and a type
argument before the type that it belongs to.
-/
structure Ordered (forest : Forest) : Prop where
  declaration
    : ∀ {parent child},
        forest.parentOf (some child) = some parent
        → forest.isTypeReference child = false
        → parent < child
  argument
    : ∀ {parent child},
        forest.parentOf (some child) = some parent
        → forest.isTypeReference parent
        → forest.isTypeReference child
        → child < parent

/-- The interner is consistent and knows every name in use. -/
structure Named (forest : Forest) : Prop where
  consistent : forest.interner.Consistent
  known
    : ∀ {id data},
        forest.content? (some id) = some data
        → ∀ atom ∈ data.atoms, atom < forest.interner.size

/-- All that every forest under edit satisfies. -/
structure Coherent (forest : Forest) : Prop where
  linked : forest.Linked
  slotted : forest.Slotted
  ordered : forest.Ordered
  named : forest.Named

/-- Below a type reference stand only type references. This takes callers who declare nothing
below one.
-/
def Layered (forest : Forest) : Prop :=
  ∀ parent child,
    forest.parentOf (some child) = some parent
    → forest.isTypeReference parent
    → forest.isTypeReference child

variable {forest : Forest} {id parent child root : NodeId} {ref : NodeRef}

theorem isTypeReference_iff
    : forest.isTypeReference id
      ↔ ∃ data, forest.content? (some id) = some (.typeReference data) := by
  simp only [isTypeReference, kind?_eq, decide_eq_true_eq, Option.map_eq_some_iff]
  constructor
  · intro given
    rcases given with ⟨data, found, kind⟩
    cases data <;> first | exact ⟨_, found⟩ | cases kind
  · intro given
    rcases given with ⟨data, found⟩
    exact ⟨_, found, rfl⟩

theorem isTypeReference_eq_false {data : NodeData}
    (found : forest.content? (some id) = some data) (other : data.kind ≠ .typeReference)
    : forest.isTypeReference id = false := by
  simp [isTypeReference, kind?_eq, found, other]

theorem isTypeReference_of_property {data : PropertyData}
    (property : forest.property? (some id) = some data)
    : forest.isTypeReference id = false :=
  isTypeReference_eq_false (property?_eq_some_iff.mp property) (by simp [NodeData.kind])

theorem isTypeReference_lt_size (typed : forest.isTypeReference id) : id < forest.size := by
  obtain ⟨data, content⟩ := isTypeReference_iff.mp typed
  exact content?_lt_size content

-----------------------------------------------------------------------------------------
-- Links, slots and layers lead from one node to the other
-----------------------------------------------------------------------------------------

/-- Both ends of a link exist. -/
theorem Linked.parent_lt_size (linked : forest.Linked)
    (link : forest.parentOf (some child) = some parent)
    : parent < forest.size :=
  childrenOf_lt_size ((linked.link parent child).mpr link)

theorem Linked.child_lt_size (linked : forest.Linked)
    (listed : child ∈ forest.childrenOf (some parent))
    : child < forest.size :=
  parentOf_lt_size ((linked.link parent child).mp listed)

/-- A step of a descent goes from a parent to its child. -/
theorem Linked.lists_iff (linked : forest.Linked)
    : Lists forest.nodes parent child ↔ forest.parentOf (some child) = some parent :=
  Forest.lists_iff.trans (linked.link parent child)

/-- What lies below an existing node exists, by induction on the descent. -/
theorem Linked.below_lt_size (linked : forest.Linked) (found : root < forest.size)
    (below : forest.Below root id)
    : id < forest.size := by
  induction below with
  | refl => exact found
  | tail _ listed _ => exact linked.child_lt_size (Forest.lists_iff.mp listed)

/-- A node properly below another one has its parent below it, too. -/
theorem Linked.below_parent (linked : forest.Linked) (below : forest.Below root id)
    (proper : id ≠ root)
    : ∃ parent, forest.parentOf (some id) = some parent ∧ forest.Below root parent := by
  rcases below.cases_tail with same | ⟨parent, above, listed⟩
  · exact absurd same proper
  · exact ⟨parent, linked.lists_iff.mp listed, above⟩

/-- A child of a node below another one is below that one, too. -/
theorem Linked.below_child (linked : forest.Linked) (below : forest.Below root parent)
    (link : forest.parentOf (some child) = some parent)
    : forest.Below root child :=
  below.tail (linked.lists_iff.mpr link)

/-- Below a type reference of a layered forest everything is a type reference, by induction on
the descent.
-/
theorem Layered.below (layered : forest.Layered) (linked : forest.Linked)
    (typed : forest.isTypeReference root) (below : forest.Below root id)
    : forest.isTypeReference id := by
  induction below with
  | refl => exact typed
  | tail _ listed ih => exact layered _ _ (linked.lists_iff.mp listed) ih

theorem Layered.not_below (layered : forest.Layered) (linked : forest.Linked)
    (typed : forest.isTypeReference root) (other : forest.isTypeReference id = false)
    : ¬ forest.Below root id := by
  intro below
  rw [layered.below linked typed below] at other
  cases other

/-- The type in a slot is a type reference below its property. -/
theorem Coherent.slot (coherent : forest.Coherent) {data : PropertyData} {type : NodeId}
    (property : forest.property? (some id) = some data) (filled : data.typeSlot = some type)
    : forest.parentOf (some type) = some id ∧ forest.isTypeReference type := by
  have member : type ∈ forest.annotations id := by
    simp [coherent.slotted id data property, filled]
  obtain ⟨listed, typed⟩ := List.mem_filter.mp member
  exact ⟨(coherent.linked.link id type).mp listed, typed⟩

/-- A type reference below a property is the one in its slot. -/
theorem Coherent.slot_of_parent (coherent : forest.Coherent) {data : PropertyData}
    {type : NodeId} (property : forest.property? (some id) = some data)
    (link : forest.parentOf (some type) = some id) (typed : forest.isTypeReference type)
    : data.typeSlot = some type := by
  have member : type ∈ forest.annotations id :=
    List.mem_filter.mpr ⟨(coherent.linked.link id type).mpr link, typed⟩
  rwa [coherent.slotted id data property, Option.mem_toList] at member

theorem empty_coherent : Coherent .empty where
  linked :=
    { link := by simp [childrenOf, parentOf, empty]
      unique := by simp [childrenOf, empty]
      detached := by simp [parentOf, empty] }
  slotted := by simp [Slotted, property?, empty]
  ordered :=
    { declaration := by simp [parentOf, empty]
      argument := by simp [parentOf, empty] }
  named :=
    { consistent := Interner.empty_consistent
      known := by simp [content?, empty] }

theorem empty_layered : Layered .empty := by
  simp [Layered, parentOf, empty]

/-- Names that are interned without being used keep the invariant, as no node changes. -/
theorem Coherent.withInterner (coherent : forest.Coherent) {interner : Interner}
    (consistent : interner.Consistent) (grown : forest.interner.Extends interner)
    : Coherent { forest with interner } where
  linked := ⟨coherent.linked.link, coherent.linked.unique, coherent.linked.detached⟩
  slotted := coherent.slotted
  ordered := ⟨coherent.ordered.declaration, coherent.ordered.argument⟩
  named := {
    consistent := consistent
    known := fun found atom member => grown.lt_size (coherent.named.known found atom member)
  }

theorem Coherent.intern (coherent : forest.Coherent) (text : String)
    : (forest.intern text).2.Coherent :=
  coherent.withInterner (coherent.named.consistent.intern text)
    (forest.interner.intern_extends text)

theorem Coherent.internAll (coherent : forest.Coherent) (texts : List String)
    : (forest.internAll texts).2.Coherent :=
  coherent.withInterner (coherent.named.consistent.internAll texts)
    (forest.interner.internAll_extends texts)

-----------------------------------------------------------------------------------------
-- A new node enters both directions of its link at once
-----------------------------------------------------------------------------------------

section Push

variable {span : Span} {data : NodeData}

theorem isTypeReference_push (known : forest.Known ref)
    : (forest.push ref span data).2.isTypeReference id
      = if id = forest.size then decide (data.kind = .typeReference)
        else forest.isTypeReference id := by
  simp only [isTypeReference, kind?_eq, content?_push known]
  split <;> simp

/-- No link leads to or from an index that is still free. -/
theorem Linked.free (linked : forest.Linked)
    : forest.parentOf (some forest.size) = none
      ∧ forest.childrenOf (some forest.size) = []
      ∧ ∀ parent, forest.size ∉ forest.childrenOf (some parent) := by
  have missing : forest.nodes[forest.size]? = none := by simp [size]
  refine ⟨by simp [parentOf, missing], by simp [childrenOf, missing], fun parent listed => ?_⟩
  exact Nat.lt_irrefl _ (linked.child_lt_size listed)

/-- A new node enters both directions of its link at once. -/
theorem Linked.push (linked : forest.Linked) (known : forest.Known ref)
    (live : data ≠ .removed)
    : (forest.push ref span data).2.Linked where
  link parent child := by
    have fresh := linked.free.2.2 parent
    rw [childrenOf_push known, parentOf_push known]
    by_cases below : ref = some parent <;> by_cases last : child = forest.size
    · simp [below, last]
    · simp [below, last, linked.link]
    · simp [below, last, fresh]
    · simp [below, last, linked.link]
  unique parent := by
    rw [childrenOf_push known]
    split
    · refine List.nodup_append.mpr ⟨linked.unique parent, by simp, ?_⟩
      intro old member new last same
      rw [List.mem_singleton.mp last] at same
      exact linked.free.2.2 parent (same ▸ member)
    · exact linked.unique parent
  detached id removed := by
    rw [content?_push known] at removed
    rw [parentOf_push known]
    split at removed
    · exact absurd (Option.some.inj removed) live
    · rename_i old
      rw [if_neg old]
      exact linked.detached id removed

/-- A new node is below no property as a type reference, and a new property has no type yet. -/
theorem Slotted.push (slotted : forest.Slotted) (linked : forest.Linked)
    (known : forest.Known ref) (unplaced : data.kind = .typeReference → ref = none)
    (untyped : ∀ property, data = .property property → property.typeSlot = none)
    : (forest.push ref span data).2.Slotted := by
  intro id property found
  rw [property?_eq_some_iff, content?_push known] at found
  have old_kind {child : NodeId} (listed : child ∈ forest.childrenOf (some id))
      : (forest.push ref span data).2.isTypeReference child = forest.isTypeReference child := by
    have old : child ≠ forest.size := Nat.ne_of_lt (linked.child_lt_size listed)
    rw [isTypeReference_push known, if_neg old]
  split at found
  · rename_i last
    have childless : (forest.push ref span data).2.childrenOf (some id) = [] := by
      rw [childrenOf_push known, last, if_neg known.ne_size, linked.free.2.1]
    simp [annotations, childless, untyped property (Option.some.inj found)]
  · have kept : (forest.childrenOf (some id)).filter (forest.push ref span data).2.isTypeReference
        = forest.annotations id :=
      List.filter_congr fun child listed => old_kind listed
    rw [← slotted id property (property?_eq_some_iff.mpr found), ← kept, annotations,
      childrenOf_push known]
    split
    · rename_i below
      have other : data.kind ≠ .typeReference := fun typed => by simp [unplaced typed] at below
      simp [List.filter_append, isTypeReference_push known, other]
    · rfl

/-- The new index is greater than that of its parent. -/
theorem Ordered.push (ordered : forest.Ordered) (linked : forest.Linked)
    (known : forest.Known ref) (unplaced : data.kind = .typeReference → ref = none)
    : (forest.push ref span data).2.Ordered where
  declaration link other := by
    rw [parentOf_push known] at link
    rw [isTypeReference_push known] at other
    split at link
    · rename_i last
      exact last ▸ known _ link
    · rename_i old
      rw [if_neg old] at other
      exact ordered.declaration link other
  argument link above below := by
    rw [parentOf_push known] at link
    rw [isTypeReference_push known] at above below
    split at link
    · rename_i last
      rw [if_pos last, decide_eq_true_eq] at below
      rw [unplaced below] at link
      cases link
    · rename_i old
      have older := Nat.ne_of_lt (linked.parent_lt_size link)
      rw [if_neg old] at below
      rw [if_neg older] at above
      exact ordered.argument link above below

theorem Named.push (named : forest.Named) (known : forest.Known ref)
    (atoms : ∀ atom ∈ data.atoms, atom < forest.interner.size)
    : (forest.push ref span data).2.Named where
  consistent := by simpa using named.consistent
  known found := by
    rw [content?_push known] at found
    rw [interner_push]
    split at found
    · exact Option.some.inj found ▸ atoms
    · exact named.known found

/-- Appending a declaration, or a detached type reference, keeps the invariant. -/
theorem Coherent.push (coherent : forest.Coherent) (known : forest.Known ref)
    (live : data ≠ .removed) (unplaced : data.kind = .typeReference → ref = none)
    (untyped : ∀ property, data = .property property → property.typeSlot = none)
    (atoms : ∀ atom ∈ data.atoms, atom < forest.interner.size)
    : (forest.push ref span data).2.Coherent where
  linked := coherent.linked.push known live
  slotted := coherent.slotted.push coherent.linked known unplaced untyped
  ordered := coherent.ordered.push coherent.linked known unplaced
  named := coherent.named.push known atoms

/-- A node that is not put below a type reference leaves the layers as they are. -/
theorem Layered.push (layered : forest.Layered) (linked : forest.Linked)
    (known : forest.Known ref) (apart : ∀ id, ref = some id → forest.isTypeReference id = false)
    : (forest.push ref span data).2.Layered := by
  intro parent child link typed
  rw [parentOf_push known] at link
  rw [isTypeReference_push known] at typed ⊢
  split at link
  · have older := Nat.ne_of_lt (known parent link)
    rw [if_neg older, apart parent link] at typed
    cases typed
  · rename_i old
    have older := Nat.ne_of_lt (linked.parent_lt_size link)
    rw [if_neg older] at typed
    rw [if_neg old]
    exact layered parent child link typed

end Push

-----------------------------------------------------------------------------------------
-- A removed node leaves with everything below it
-----------------------------------------------------------------------------------------

section Remove

/-- The former parent is the only node that lists the removed one. -/
theorem Linked.childrenOf_remove (linked : forest.Linked) (apart : ¬ forest.Below root id)
    : (forest.remove (some root)).childrenOf (some id)
      = (forest.childrenOf (some id)).filter (· ≠ root) := by
  rw [childrenOf_remove_apart apart]
  split
  · rfl
  · rename_i other
    symm
    refine List.filter_eq_self.mpr fun child listed => ?_
    have apart : child ≠ root := by
      intro equal
      subst equal
      exact other ((linked.link id child).mp listed)
    simpa using apart

/-- What is left after a removal keeps its kind, and what is erased is no type reference. -/
theorem isTypeReference_remove (found : root < forest.size) (known : id < forest.size)
    : (forest.remove (some root)).isTypeReference id
      ↔ ¬ forest.Below root id ∧ forest.isTypeReference id := by
  by_cases below : forest.Below root id
  · have erased := (queries_remove_below found below known).2.2
    simp [isTypeReference, kind?_eq, erased, below, NodeData.kind]
  · simp [isTypeReference, kind?_remove_apart below, below]

/-- A link survives a removal exactly when its child does. -/
theorem Linked.parentOf_remove (linked : forest.Linked) (found : root < forest.size)
    : (forest.remove (some root)).parentOf (some child) = some parent
      ↔ ¬ forest.Below root child ∧ forest.parentOf (some child) = some parent := by
  by_cases below : forest.Below root child
  · have known := linked.below_lt_size found below
    simp [(queries_remove_below found below known).1, below]
  · simp [parentOf_remove_apart below, below]

theorem Linked.remove (linked : forest.Linked) (found : root < forest.size)
    : (forest.remove (some root)).Linked where
  link parent child := by
    rw [linked.parentOf_remove found, ← linked.link]
    by_cases above : forest.Below root parent
    · have known := linked.below_lt_size found above
      rw [(queries_remove_below found above known).2.1]
      have erased : child ∈ forest.childrenOf (some parent) → forest.Below root child :=
        fun listed => linked.below_child above ((linked.link parent child).mp listed)
      simpa using fun alive listed => alive (erased listed)
    · rw [linked.childrenOf_remove above, List.mem_filter]
      have apart : child ∈ forest.childrenOf (some parent)
          → (child ≠ root ↔ ¬ forest.Below root child) := by
        intro listed
        refine ⟨fun other below => above ?_, fun alive same => alive (same ▸ .refl)⟩
        obtain ⟨actual, link, reached⟩ := linked.below_parent below other
        rw [(linked.link parent child).mp listed] at link
        exact Option.some.inj link ▸ reached
      constructor
      · intro given
        rcases given with ⟨listed, other⟩
        exact ⟨(apart listed).mp (by simpa using other), listed⟩
      · intro given
        rcases given with ⟨alive, listed⟩
        exact ⟨listed, by simpa using (apart listed).mpr alive⟩
  unique parent := by
    by_cases above : forest.Below root parent
    · have known := linked.below_lt_size found above
      simp [(queries_remove_below found above known).2.1]
    · rw [linked.childrenOf_remove above]
      exact (linked.unique parent).filter _
  detached id removed := by
    by_cases below : forest.Below root id
    · exact (queries_remove_below found below (linked.below_lt_size found below)).1
    · rw [parentOf_remove_apart below]
      have noProperty : forest.property? (some id) = none := by
        cases property : forest.property? (some id) with
        | none => rfl
        | some data =>
            have left := property?_remove_apart below
            rw [property, Option.map_some, property?_eq_some_iff, removed] at left
            cases left
      exact linked.detached id (content?_remove_apart below noProperty ▸ removed)

/-- A property that survives loses its type from the slot and from its children together. -/
theorem Coherent.slotted_remove (coherent : forest.Coherent) (found : root < forest.size)
    : (forest.remove (some root)).Slotted := by
  intro id data property
  have linked := coherent.linked
  have apart : ¬ forest.Below root id := by
    intro below
    have erased := (queries_remove_below found below (linked.below_lt_size found below)).2.2
    rw [property?_eq_some_iff, erased] at property
    cases property
  obtain ⟨before, earlier, released⟩ :=
    Option.map_eq_some_iff.mp (property?_remove_apart apart ▸ property)
  have kinds {child : NodeId} (listed : child ∈ forest.childrenOf (some id))
      (other : child ≠ root)
      : (forest.remove (some root)).isTypeReference child = forest.isTypeReference child := by
    have alive : ¬ forest.Below root child := by
      intro below
      obtain ⟨actual, link, reached⟩ := linked.below_parent below other
      rw [(linked.link id child).mp listed] at link
      exact apart (Option.some.inj link ▸ reached)
    simp [isTypeReference, kind?_remove_apart alive]
  have left : (forest.remove (some root)).annotations id
      = (forest.annotations id).filter (· ≠ root) := by
    rw [annotations, linked.childrenOf_remove apart, annotations, List.filter_filter,
      List.filter_filter]
    refine List.filter_congr fun child listed => ?_
    by_cases same : child = root
    · simp [same]
    · simp [same, kinds listed same]
  rw [left, coherent.slotted id before earlier, ← released]
  split
  · cases slot : before.typeSlot with
    | none => simp [Forest.released, slot]
    | some type => by_cases same : type = root <;> simp [Forest.released, slot, same]
  · rename_i former
    cases slot : before.typeSlot with
    | none => rfl
    | some type =>
        have other : type ≠ root := by
          intro equal
          subst equal
          exact former (coherent.slot earlier slot).1
        simp [other]

theorem Coherent.ordered_remove (coherent : forest.Coherent) (found : root < forest.size)
    : (forest.remove (some root)).Ordered where
  declaration link other := by
    have known := size_remove (some root) ▸ parentOf_lt_size link
    obtain ⟨alive, link⟩ := (coherent.linked.parentOf_remove found).mp link
    refine coherent.ordered.declaration link ?_
    simpa [isTypeReference, kind?_remove_apart alive] using other
  argument link above below := by
    obtain ⟨alive, old⟩ := (coherent.linked.parentOf_remove found).mp link
    have bound := coherent.linked.parent_lt_size old
    have typedAbove := ((isTypeReference_remove found bound).mp above).2
    have typedBelow := ((isTypeReference_remove found (parentOf_lt_size old)).mp below).2
    exact coherent.ordered.argument old typedAbove typedBelow

/-- A removal introduces no name. -/
theorem Coherent.named_remove (coherent : forest.Coherent) (found : root < forest.size)
    : (forest.remove (some root)).Named where
  consistent := by simpa using coherent.named.consistent
  known := by
    intro id data content
    rw [interner_remove]
    by_cases below : forest.Below root id
    · have bound := coherent.linked.below_lt_size found below
      rw [(queries_remove_below found below bound).2.2] at content
      obtain rfl := Option.some.inj content
      simp [NodeData.atoms]
    · cases property : forest.property? (some id) with
      | none =>
          exact coherent.named.known (content?_remove_apart below property ▸ content)
      | some before =>
          have after := property?_remove_apart below
          rw [property, Option.map_some, property?_eq_some_iff, content] at after
          obtain rfl := Option.some.inj after
          have atoms := coherent.named.known (property?_eq_some_iff.mp property)
          unfold released
          split
          · split <;> exact atoms
          · exact atoms

/-- Removing a node keeps the invariant: everything below it goes along. -/
theorem Coherent.remove (coherent : forest.Coherent) (ref : NodeRef)
    : (forest.remove ref).Coherent := by
  rcases forest.remove_cases ref with same | ⟨root, rfl, found⟩
  · rwa [same]
  · exact ⟨coherent.linked.remove found, coherent.slotted_remove found,
      coherent.ordered_remove found, coherent.named_remove found⟩

/-- Removing a node keeps the layers: it brings no link and no type reference. -/
theorem Layered.remove (layered : forest.Layered) (linked : forest.Linked) (ref : NodeRef)
    : (forest.remove ref).Layered := by
  rcases forest.remove_cases ref with same | ⟨root, rfl, found⟩
  · rwa [same]
  · intro parent child link typed
    obtain ⟨alive, old⟩ := (linked.parentOf_remove found).mp link
    have above := ((isTypeReference_remove found (linked.parent_lt_size old)).mp typed).2
    exact (isTypeReference_remove found (parentOf_lt_size old)).mpr
      ⟨alive, layered parent child old above⟩

end Remove

end Forest

end PropertyLint
