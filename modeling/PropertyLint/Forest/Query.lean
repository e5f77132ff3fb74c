import PropertyLint.Forest.Basic
import PropertyLint.TypeExpr.Basic

/-! Questions about a forest.

None of them changes it. Walks along parents, along type arguments and below a root visit a node
of a well-linked forest at most once, so the number of nodes is budget enough for each.
-/

namespace PropertyLint

open Text (joined)

namespace Forest

-----------------------------------------------------------------------------------------
-- One node
-----------------------------------------------------------------------------------------

def kind? (forest : Forest) (ref : NodeRef) : Option NodeKind :=
  (forest.node? ref).map Node.kind

/-- The content of a property declaration. -/
def property? (forest : Forest) (ref : NodeRef) : Option PropertyData :=
  match (forest.node? ref).map Node.data with
  | some (.property data) => some data
  | _ => none

def typeReference? (forest : Forest) (ref : NodeRef) : Option TypeReferenceData :=
  match (forest.node? ref).map Node.data with
  | some (.typeReference data) => some data
  | _ => none

/-- The parent of a node; a node that does not exist has none. -/
def parentOf (forest : Forest) (ref : NodeRef) : NodeRef :=
  (forest.node? ref).bind Node.parent

/-- The children of a node in document order; a node that does not exist has none. -/
def childrenOf (forest : Forest) (ref : NodeRef) : List NodeId :=
  ((forest.node? ref).map Node.children).getD []

/-- The name of a property, class or function. -/
def declarationName? (forest : Forest) (ref : NodeRef) : Option String :=
  match (forest.node? ref).map Node.data with
  | some (.property data) => some (forest.interner.resolve data.name)
  | some (.classDeclaration name) => some (forest.interner.resolve name)
  | some (.functionDeclaration name) => some (forest.interner.resolve name)
  | _ => none

/-- Where a property is declared, by the kind of its parent.
Other nodes have no scope, nor has a property whose parent cannot hold declarations.
-/
def scope? (forest : Forest) (ref : NodeRef) : Option DeclarationScope :=
  match forest.property? ref, forest.kind? (forest.parentOf ref) with
  | some _, some .sourceFile => some .topLevel
  | some _, some .classDeclaration => some .member
  | some _, some .functionDeclaration => some .body
  | some _, some .block => some .body
  | _, _ => none

-----------------------------------------------------------------------------------------
-- Along the parents
-----------------------------------------------------------------------------------------

/-- The name of the first source file among a node and its ancestors, in at most `budget` steps. -/
def fileNameWithin (forest : Forest) : Nat → NodeRef → Option String
  | 0, _ => none
  | budget + 1, ref =>
    match forest.node? ref with
    | none => none
    | some node =>
      match node.data with
      | .sourceFile fileName => some fileName
      | _ => forest.fileNameWithin budget node.parent

/-- The name of the source file that contains a node. -/
def fileName? (forest : Forest) (ref : NodeRef) : Option String :=
  forest.fileNameWithin (forest.size + 1) ref

-----------------------------------------------------------------------------------------
-- Below a root
-----------------------------------------------------------------------------------------

/-- The properties met by walking the nodes on `pending` from left to right, each before what is
below it, in at most `budget` visits. Type references and removed nodes are not entered.
-/
def propertiesFrom (forest : Forest) : Nat → List NodeId → List NodeId
  | 0, _ => []
  | _ + 1, [] => []
  | budget + 1, id :: pending =>
    match forest.node? (some id) with
    | none => forest.propertiesFrom budget pending
    | some node =>
      match node.data with
      | .property _ => id :: forest.propertiesFrom budget (node.children ++ pending)
      | .typeReference _ | .removed => forest.propertiesFrom budget pending
      | _ => forest.propertiesFrom budget (node.children ++ pending)

/-- The properties at and below a root in document order. -/
def properties (forest : Forest) (root : NodeRef) : List NodeId :=
  forest.propertiesFrom (forest.size + 1) root.toList

-----------------------------------------------------------------------------------------
-- Type references
-----------------------------------------------------------------------------------------

/-- The spelling of a type reference whose arguments nest less than `budget` levels deep.
There is none when one of the nodes involved is not a type reference.
-/
def typeTextWithin (forest : Forest) : Nat → NodeRef → Option String
  | 0, _ => none
  | budget + 1, ref =>
    match forest.typeReference? ref with
    | none => none
    | some .star => some "*"
    | some (.named name arguments nullable) => do
      let texts ← arguments.mapM fun argument => forest.typeTextWithin budget (some argument)
      some (spellType (joined "." (name.map forest.interner.resolve)) texts nullable)

/-- The canonical spelling of a type reference. -/
def typeText? (forest : Forest) (ref : NodeRef) : Option String :=
  forest.typeTextWithin (forest.size + 1) ref

/-- The spelling of the type written after a property's name. -/
def propertyTypeText? (forest : Forest) (ref : NodeRef) : Option String :=
  (forest.property? ref).bind fun data => forest.typeText? data.typeSlot

end Forest

end PropertyLint
