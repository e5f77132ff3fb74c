import PropertyLint.Text.Interner
import PropertyLint.Text.Span

/-! The declaration forest.

A forest stores the declarations of source files and their type references in one array. A node
names its parent and its children by index; an index never changes its meaning, because nodes are
only ever appended and a removed node leaves an empty record behind.
-/

namespace PropertyLint

/-- The index of a node. Like the numbers of names and of types and the places in a text, it is
unbounded here. Where these numbers have 32 bits, the definitions are followed, and the results
about them hold, as long as there are fewer than 2^32 nodes, names and types and a text has fewer
than 2^32 bytes.
-/
abbrev NodeId := Nat

/-- A reference to a node, or to no node. The node it names need not exist. -/
abbrev NodeRef := Option NodeId

/-- What kind of node stands at an index. -/
inductive NodeKind where
  | sourceFile
  | classDeclaration
  | functionDeclaration
  | block
  | propertyDeclaration
  | typeReference
  /-- What a removed node leaves behind. -/
  | removed
deriving DecidableEq, Repr

/-- Where a property is declared. -/
inductive DeclarationScope where
  /-- Directly in a source file. -/
  | topLevel
  /-- Directly in a class. -/
  | member
  /-- Directly in a function or a block. -/
  | body
deriving DecidableEq, Repr

/-- A property declaration: `typeSlot` is the type reference written after its name, if any. -/
structure PropertyData where
  name : Atom
  nameSpan : Span
  isMutable : Bool
  typeSlot : NodeRef
deriving DecidableEq, Repr

/-- A type reference: one layer of a type expression whose arguments are nodes. -/
inductive TypeReferenceData where
  | named (name : List Atom) (arguments : List NodeId) (nullable : Bool)
  | star
deriving DecidableEq, Repr

namespace TypeReferenceData

/-- The segments of the qualified name; a star has none. -/
def name : TypeReferenceData → List Atom
  | .named name _ _ => name
  | .star => []

def arguments : TypeReferenceData → List NodeId
  | .named _ arguments _ => arguments
  | .star => []

/-- Whether a question mark follows. -/
def nullable : TypeReferenceData → Bool
  | .named _ _ nullable => nullable
  | .star => false

def isStar : TypeReferenceData → Bool
  | .named .. => false
  | .star => true

end TypeReferenceData

/-- The content of a node by kind. -/
inductive NodeData where
  | sourceFile (fileName : String)
  | classDeclaration (name : Atom)
  | functionDeclaration (name : Atom)
  | block
  | property (data : PropertyData)
  | typeReference (data : TypeReferenceData)
  | removed
deriving DecidableEq, Repr

def NodeData.kind : NodeData → NodeKind
  | .sourceFile _ => .sourceFile
  | .classDeclaration _ => .classDeclaration
  | .functionDeclaration _ => .functionDeclaration
  | .block => .block
  | .property _ => .propertyDeclaration
  | .typeReference _ => .typeReference
  | .removed => .removed

/-- A node: its place in the forest, its bytes in the source, and its content. -/
structure Node where
  parent : NodeRef
  span : Span
  children : List NodeId
  data : NodeData
deriving DecidableEq, Repr

namespace Node

def kind (node : Node) : NodeKind :=
  node.data.kind

/-- Takes `id` out of a parent: out of its children and out of its type slot. -/
def release (node : Node) (id : NodeId) : Node :=
  let data :=
    match node.data with
    | .property data =>
      .property (if data.typeSlot = some id then { data with typeSlot := none } else data)
    | data => data
  { node with children := node.children.filter (· ≠ id), data }

/-- What removal leaves of a node: only its bytes in the source. -/
def erased (node : Node) : Node :=
  { node with parent := none, children := [], data := .removed }

/-- The node with another type slot, if it is a property. -/
def withTypeSlot (node : Node) (ref : NodeRef) : Node :=
  match node.data with
  | .property data => { node with data := .property { data with typeSlot := ref } }
  | _ => node

end Node

/-- The nodes by index, and the names that they use. -/
structure Forest where
  nodes : Array Node
  interner : Interner

namespace Forest

/-- The forest without nodes. -/
def empty : Forest where
  nodes := #[]
  interner := .empty

instance : Inhabited Forest := ⟨empty⟩

/-- The number of nodes, removed ones included. -/
def size (forest : Forest) : Nat :=
  forest.nodes.size

/-- The node that a reference names, if it exists. -/
def node? (forest : Forest) (ref : NodeRef) : Option Node :=
  ref.bind (forest.nodes[·]?)

/-- Changes the node that a reference names, if it exists. -/
def update (forest : Forest) (ref : NodeRef) (change : Node → Node) : Forest :=
  match ref with
  | none => forest
  | some id => { forest with nodes := forest.nodes.modify id change }

end Forest

end PropertyLint
