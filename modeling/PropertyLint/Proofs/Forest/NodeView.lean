import Mathlib.Logic.Relation
import PropertyLint.Forest.Edit

/-! A forest as its queries see it: parent, children and content of each index.
Every change is described once by what stands at an index afterwards; proofs about invariants
read these descriptions and do not open the changes again.
-/

namespace PropertyLint.Forest

variable {forest before after : Forest} {id parent child : NodeId} {ref : NodeRef}

-----------------------------------------------------------------------------------------
-- Reading an index
-----------------------------------------------------------------------------------------

/-- The content of the node that a reference names, if it exists. -/
def content? (forest : Forest) (ref : NodeRef) : Option NodeData :=
  (forest.node? ref).map Node.data

/-- A reference that names no node, or a node that exists. -/
def Known (forest : Forest) (ref : NodeRef) : Prop :=
  ∀ id, ref = some id → id < forest.size

@[simp] theorem node?_none : forest.node? none = none := rfl

@[simp] theorem node?_some : forest.node? (some id) = forest.nodes[id]? := rfl

theorem nodes_isSome_iff : (∃ node, forest.nodes[id]? = some node) ↔ id < forest.size := by
  simp [← Option.isSome_iff_exists, size]

theorem lt_size_of_found {node : Node} (found : forest.nodes[id]? = some node)
    : id < forest.size :=
  nodes_isSome_iff.mp ⟨node, found⟩

theorem content?_of_found {node : Node} (found : forest.nodes[id]? = some node)
    : forest.content? (some id) = some node.data := by
  simp [content?, found]

theorem content?_lt_size {data : NodeData} (found : forest.content? (some id) = some data)
    : id < forest.size := by
  obtain ⟨node, found, _⟩ := Option.map_eq_some_iff.mp found
  exact lt_size_of_found found

theorem kind?_eq : forest.kind? ref = (forest.content? ref).map NodeData.kind := by
  rw [kind?, content?, Option.map_map]
  rfl

theorem property?_eq_some_iff {data : PropertyData}
    : forest.property? ref = some data ↔ forest.content? ref = some (.property data) := by
  unfold property? content?
  cases (forest.node? ref).map Node.data with
  | none => simp
  | some content => cases content <;> simp

theorem property?_lt_size {data : PropertyData} (property : forest.property? (some id) = some data)
    : id < forest.size :=
  content?_lt_size (property?_eq_some_iff.mp property)

/-- A property has the name that its content holds. -/
theorem declarationName?_of_property {data : PropertyData}
    (property : forest.property? ref = some data)
    : forest.declarationName? ref = some (forest.interner.resolve data.name) := by
  have content := property?_eq_some_iff.mp property
  unfold content? at content
  rw [declarationName?, content]

/-- Forests with the same content at an index have the same property there. -/
theorem property?_congr (same : after.content? ref = before.content? ref)
    : after.property? ref = before.property? ref := by
  ext data
  rw [property?_eq_some_iff, property?_eq_some_iff, same]

theorem typeReference?_eq_some_iff {data : TypeReferenceData}
    : forest.typeReference? ref = some data ↔ forest.content? ref = some (.typeReference data) := by
  unfold typeReference? content?
  cases (forest.node? ref).map Node.data with
  | none => simp
  | some content => cases content <;> simp

theorem parentOf_eq_some_iff
    : forest.parentOf (some child) = some parent
      ↔ ∃ node, forest.nodes[child]? = some node ∧ node.parent = some parent := by
  simp [parentOf, Option.bind_eq_some_iff]

theorem mem_childrenOf_iff
    : child ∈ forest.childrenOf (some parent)
      ↔ ∃ node, forest.nodes[parent]? = some node ∧ child ∈ node.children := by
  cases found : forest.nodes[parent]? <;> simp [childrenOf, found]

theorem parentOf_lt_size (linked : forest.parentOf (some child) = some parent)
    : child < forest.size := by
  obtain ⟨node, found, _⟩ := parentOf_eq_some_iff.mp linked
  exact lt_size_of_found found

theorem childrenOf_lt_size (listed : child ∈ forest.childrenOf (some parent))
    : parent < forest.size := by
  obtain ⟨node, found, _⟩ := mem_childrenOf_iff.mp listed
  exact lt_size_of_found found

/-- A type reference is no property: an index holds one content. -/
theorem property?_ne_typeReference {data : PropertyData} {typeData : TypeReferenceData}
    (property : forest.content? ref = some (.property data))
    : forest.content? ref ≠ some (.typeReference typeData) := by
  simp [property]

/-- `child` stands in the child list of `parent`. -/
def Lists (nodes : Array Node) (parent child : NodeId) : Prop :=
  ∃ node, nodes[parent]? = some node ∧ child ∈ node.children

/-- `id` is `root` or reached from it through child lists. -/
abbrev Below (forest : Forest) (root id : NodeId) : Prop :=
  Relation.ReflTransGen (Lists forest.nodes) root id

theorem lists_iff : Lists forest.nodes parent child ↔ child ∈ forest.childrenOf (some parent) :=
  mem_childrenOf_iff.symm

-----------------------------------------------------------------------------------------
-- Changes at one index
-----------------------------------------------------------------------------------------

@[simp] theorem size_update (change : Node → Node)
    : (forest.update ref change).size = forest.size := by
  cases ref <;> simp [update, size]

@[simp] theorem interner_update (change : Node → Node)
    : (forest.update ref change).interner = forest.interner := by
  cases ref <;> rfl

theorem nodes_update (change : Node → Node)
    : (forest.update ref change).nodes[id]?
      = (forest.nodes[id]?).map fun node => if ref = some id then change node else node := by
  cases ref with
  | none => simp [update]
  | some target =>
      by_cases same : target = id
      · simp [update, Array.getElem?_modify, same]
      · simp [update, Array.getElem?_modify, same]

/-- A change that keeps the content of a node keeps all contents. -/
theorem content?_update_of_data {target : NodeRef} {change : Node → Node}
    (same : ∀ node, (change node).data = node.data)
    : (forest.update target change).content? ref = forest.content? ref := by
  cases ref with
  | none => rfl
  | some id =>
      simp only [content?, node?_some, nodes_update, Option.map_map]
      congr 1
      funext node
      by_cases here : target = some id <;> simp [here, same]

theorem content?_update_other {change : Node → Node} (other : ref ≠ some id)
    : (forest.update ref change).content? (some id) = forest.content? (some id) := by
  simp [content?, nodes_update, other]

/-- A node that moves takes its content along. -/
theorem content?_reparent (child : NodeId) (target : NodeRef)
    : (forest.reparent child target).content? ref = forest.content? ref := by
  unfold reparent
  split
  · rfl
  · rw [content?_update_of_data fun node => by split <;> rfl, content?_update_of_data,
      content?_update_of_data] <;> exact fun _ => rfl

/-- Interning a name changes no node. -/
@[simp] theorem nodes_intern (text : String) : (forest.intern text).2.nodes = forest.nodes := rfl

@[simp] theorem interner_intern (text : String)
    : (forest.intern text).2.interner = (forest.interner.intern text).2 := rfl

@[simp] theorem nodes_internAll (texts : List String)
    : (forest.internAll texts).2.nodes = forest.nodes := rfl

@[simp] theorem interner_internAll (texts : List String)
    : (forest.internAll texts).2.interner = (forest.interner.internAll texts).2 := rfl

-----------------------------------------------------------------------------------------
-- Appending a node
-----------------------------------------------------------------------------------------

variable {span : Span} {data : NodeData}

@[simp] theorem push_id : (forest.push ref span data).1 = forest.size := rfl

@[simp] theorem size_push : (forest.push ref span data).2.size = forest.size + 1 := by
  rw [push, size_update]
  simp [size]

@[simp] theorem interner_push : (forest.push ref span data).2.interner = forest.interner := by
  simp [push]

/-- A reference to an existing node, or to none, does not name the next node. -/
theorem Known.ne_size (known : forest.Known ref) : ref ≠ some forest.size := by
  intro same
  exact Nat.lt_irrefl _ (known _ same)

/-- The new node stands behind all others and is listed last below a parent that exists. -/
theorem nodes_push (known : forest.Known ref)
    : (forest.push ref span data).2.nodes[id]?
      = if id = forest.size then some ⟨ref, span, [], data⟩
        else
          (forest.nodes[id]?).map fun node =>
            if ref = some id then { node with children := node.children ++ [forest.size] }
            else node := by
  have fresh : ref ≠ some forest.nodes.size := known.ne_size
  rw [push, nodes_update, Array.getElem?_push]
  by_cases last : id = forest.size
  · subst id
    simp [fresh, size]
  · have inside : id ≠ forest.nodes.size := last
    simp [last, inside]

theorem parentOf_push (known : forest.Known ref)
    : (forest.push ref span data).2.parentOf (some id)
      = if id = forest.size then ref else forest.parentOf (some id) := by
  unfold parentOf
  simp only [node?_some, nodes_push known]
  split
  · rfl
  · cases forest.nodes[id]? with
    | none => rfl
    | some node => by_cases same : ref = some id <;> simp [same]

theorem childrenOf_push (known : forest.Known ref)
    : (forest.push ref span data).2.childrenOf (some id)
      = if ref = some id then forest.childrenOf (some id) ++ [forest.size]
        else forest.childrenOf (some id) := by
  have fresh : ref ≠ some forest.nodes.size := known.ne_size
  unfold childrenOf
  simp only [node?_some, nodes_push known]
  by_cases last : id = forest.size
  · subst id
    simp [fresh, size]
  · rw [if_neg last]
    cases found : forest.nodes[id]? with
    | none =>
        have other : ref ≠ some id := by
          intro same
          obtain ⟨node, present⟩ := nodes_isSome_iff.mpr (known id same)
          simp [found] at present
        simp [other]
    | some node => by_cases same : ref = some id <;> simp [same]

theorem content?_push (known : forest.Known ref)
    : (forest.push ref span data).2.content? (some id)
      = if id = forest.size then some data else forest.content? (some id) := by
  unfold content?
  simp only [node?_some, nodes_push known]
  split
  · rfl
  · cases forest.nodes[id]? with
    | none => rfl
    | some node => by_cases same : ref = some id <;> simp [same]

end PropertyLint.Forest
