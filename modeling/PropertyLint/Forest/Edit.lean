import PropertyLint.Forest.Query
import PropertyLint.TypeExpr.Parser

/-! Changes to a forest.

Declarations are added under a parent, type references are made detached and then attached to a
property, and a removed node takes everything below it along. Each operation keeps both directions
of the parent link.
-/

namespace PropertyLint

namespace Forest

-----------------------------------------------------------------------------------------
-- Adding declarations
-----------------------------------------------------------------------------------------

/-- Appends a node and lists it last among its parent's children, if the parent exists. -/
def push (forest : Forest) (parent : NodeRef) (span : Span) (data : NodeData) : NodeId × Forest :=
  let id := forest.size
  let grown := { forest with nodes := forest.nodes.push ⟨parent, span, [], data⟩ }
  (id, grown.update parent fun node => { node with children := node.children ++ [id] })

/-- Interns a name for later use. -/
def intern (forest : Forest) (text : String) : Atom × Forest :=
  let (atom, interner) := forest.interner.intern text
  (atom, { forest with interner })

/-- Adds a source file, which has no parent. -/
def addSourceFile (forest : Forest) (fileName : String) (span : Span) : NodeId × Forest :=
  forest.push none span (.sourceFile fileName)

/-- Adds a class. -/
def addClass (forest : Forest) (parent : NodeRef) (name : String) (span : Span)
    : NodeId × Forest :=
  let (atom, forest) := forest.intern name
  forest.push parent span (.classDeclaration atom)

/-- Adds a function. -/
def addFunction (forest : Forest) (parent : NodeRef) (name : String) (span : Span)
    : NodeId × Forest :=
  let (atom, forest) := forest.intern name
  forest.push parent span (.functionDeclaration atom)

/-- Adds a block. -/
def addBlock (forest : Forest) (parent : NodeRef) (span : Span) : NodeId × Forest :=
  forest.push parent span .block

/-- Adds a property without a written type. -/
def addProperty (forest : Forest) (parent : NodeRef) (name : String) (isMutable : Bool)
    (span nameSpan : Span) : NodeId × Forest :=
  let (atom, forest) := forest.intern name
  forest.push parent span (.property ⟨atom, nameSpan, isMutable, none⟩)

-----------------------------------------------------------------------------------------
-- Moving and removing nodes
-----------------------------------------------------------------------------------------

/-- Moves a node below another one, after its children there. -/
def reparent (forest : Forest) (child : NodeId) (parent : NodeRef) : Forest :=
  match forest.node? (some child) with
  | none => forest
  | some node =>
    let left := forest.update node.parent fun old =>
      { old with children := old.children.filter (· ≠ child) }
    let moved := left.update (some child) fun node => { node with parent }
    moved.update parent fun new =>
      if child ∈ new.children then new else { new with children := new.children ++ [child] }

/-- The number of parent-to-child links. -/
def linkCount : List Node → Nat
  | [] => 0
  | node :: rest => node.children.length + linkCount rest

/-- Erasing a node takes its links away and leaves all others. -/
theorem linkCount_set_erased (nodes : List Node) (id : NodeId) (node : Node)
    (found : nodes[id]? = some node)
    : linkCount (nodes.set id node.erased) + node.children.length = linkCount nodes := by
  induction nodes generalizing id with
  | nil => simp at found
  | cons first rest ih =>
    cases id with
    | zero =>
      obtain rfl : first = node := by simpa using found
      simp [linkCount, Node.erased, Nat.add_comm]
    | succ id =>
      have step := ih id (by simpa using found)
      simp only [linkCount, List.set_cons_succ] at step ⊢
      omega

/-- Erases the pending nodes and everything below them.
Each visit either drops a pending index or turns the links of one node into pending indices.
-/
def eraseAll (nodes : Array Node) (pending : List NodeId) : Array Node :=
  match pending with
  | [] => nodes
  | id :: rest =>
    match _ : nodes[id]? with
    | none => eraseAll nodes rest
    | some node => eraseAll (nodes.setIfInBounds id node.erased) (node.children ++ rest)
termination_by linkCount nodes.toList + pending.length
decreasing_by
  · simp
  · have kept := linkCount_set_erased nodes.toList id node (by simpa)
    simp only [Array.toList_setIfInBounds, List.length_append, List.length_cons]
    omega

/-- Removes a node and everything below it. Its parent forgets it; indices stay in place. -/
def remove (forest : Forest) (ref : NodeRef) : Forest :=
  match ref, forest.node? ref with
  | some id, some node =>
    let released := forest.update node.parent (·.release id)
    { released with nodes := eraseAll released.nodes [id] }
  | _, _ => forest

-----------------------------------------------------------------------------------------
-- Type references
-----------------------------------------------------------------------------------------

/-- Interns the segments of a name from left to right. -/
def internAll (forest : Forest) (texts : List String) : List Atom × Forest :=
  let (atoms, interner) := forest.interner.internAll texts
  (atoms, { forest with interner })

mutual

/-- Adds a type expression as detached type references, arguments before the type they belong to. -/
def addType (forest : Forest) : TypeExpr → NodeId × Forest
  | .star => forest.push none {} (.typeReference .star)
  | .named name arguments nullable =>
    let (atoms, forest) := forest.internAll name
    let (ids, forest) := forest.addTypes arguments
    let (id, forest) := forest.push none {} (.typeReference (.named atoms ids nullable))
    (id, ids.foldl (fun forest argument => forest.reparent argument (some id)) forest)

/-- Adds type expressions from left to right. -/
def addTypes (forest : Forest) : List TypeExpr → List NodeId × Forest
  | [] => ([], forest)
  | expr :: rest =>
    let (id, forest) := forest.addType expr
    let (ids, forest) := forest.addTypes rest
    (id :: ids, forest)

end

/-- Reads a text as a type and adds it; a text that is no type adds nothing. -/
def addTypeText (forest : Forest) (text : String) : Except TypeParseError (NodeId × Forest) :=
  (TypeExpr.parse text).map forest.addType

/-- How an attempt to attach a type reference ended. -/
inductive Attachment where
  /-- The nodes are not a property and a type reference that is free for it. -/
  | refused
  /-- The type reference was in the slot already. -/
  | unchanged
  /-- The type reference has taken the slot. -/
  | attached
deriving DecidableEq, Repr

/-- Whether the type reference is in the slot afterwards. -/
def Attachment.isDone : Attachment → Bool
  | .refused => false
  | .unchanged | .attached => true

/-- Attaches a type reference to a property, in place of the one in its slot, which is removed.
The type reference must be detached or already below the property. It comes to stand as an empty
span behind the property's name.
-/
def attachType (forest : Forest) (property typeRef : NodeRef) : Attachment × Forest :=
  match typeRef, forest.typeReference? typeRef, forest.property? property with
  | some id, some _, some data =>
    let owner := forest.parentOf typeRef
    if owner ≠ none ∧ owner ≠ property then (.refused, forest)
    else if data.typeSlot = typeRef then (.unchanged, forest)
    else
      let vacant := forest.remove data.typeSlot
      let anchor := ((vacant.property? property).map (·.nameSpan.stop)).getD 0
      let moved := vacant.reparent id property
      let placed := moved.update typeRef fun node => { node with span := .point anchor }
      (.attached, placed.update property (·.withTypeSlot typeRef))
  | _, _, _ => (.refused, forest)

/-- A property and the type reference in its slot. -/
structure TypedProperty where
  property : NodeId
  typeRef : NodeId

/-- Adds an immutable property with a written type; a text that is no type adds nothing. -/
def addTypedProperty (forest : Forest) (parent : NodeRef) (name typeText : String)
    (span nameSpan : Span) : Except TypeParseError (TypedProperty × Forest) := do
  let (typeRef, forest) ← forest.addTypeText typeText
  let (property, forest) := forest.addProperty parent name false span nameSpan
  let (_, forest) := forest.attachType (some property) (some typeRef)
  return (⟨property, typeRef⟩, forest)

end Forest

end PropertyLint
