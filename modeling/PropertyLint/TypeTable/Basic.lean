import PropertyLint.Forest.Basic

/-! The type table.

A type is a class name applied to types, possibly nullable. Types are interned: the same name,
arguments and nullability always get the same number. The table also holds the class declarations,
whose supertypes are templates over the class's own parameters, and the types that are known for
declarations.
-/

namespace PropertyLint

/-- The number of an interned type. -/
abbrev TypeId := Nat

/-- One layer of a type: the class it applies, and its arguments by number. -/
structure TypeData where
  head : Atom
  arguments : List TypeId
  nullable : Bool
deriving DecidableEq, Hashable, Repr

/-- A supertype as a class declares it. -/
inductive TypeTemplate where
  /-- The class's parameter at a position. -/
  | param (index : Nat)
  /-- A class applied to templates. -/
  | named (name : String) (arguments : List TypeTemplate) (nullable : Bool)
deriving Repr, Inhabited

/-- A class without arguments. -/
def TypeTemplate.simple (name : String) : TypeTemplate :=
  .named name [] false

/-- A class applied to templates, not nullable. -/
def TypeTemplate.generic (name : String) (arguments : List TypeTemplate) : TypeTemplate :=
  .named name arguments false

/-- What a table knows of a class: the names of its parameters and its direct supertypes. -/
structure ClassDeclaration where
  params : List Atom
  supertypes : List TypeTemplate
deriving Repr

/-- Interned types, declared classes, and the types of declarations. -/
structure TypeTable where
  interner : Interner
  types : Array TypeData
  typeIds : Std.HashMap TypeData TypeId
  classes : Std.HashMap Atom ClassDeclaration
  declarationTypes : Std.HashMap NodeRef TypeId

/-- The class above all others. -/
def rootTypeName : String := "Any"

namespace TypeTable

/-- Declares a class, in place of an earlier declaration of its name.
A class that names no supertype has the root class as its only one, unless it is the root itself.
-/
def declareClass (table : TypeTable) (name : String) (params : List String)
    (supertypes : List TypeTemplate) : TypeTable :=
  let supertypes :=
    if supertypes.isEmpty ∧ name ≠ rootTypeName then [.simple rootTypeName] else supertypes
  let (atom, interner) := table.interner.intern name
  let (params, interner) := interner.internAll params
  { table with interner, classes := table.classes.insert atom ⟨params, supertypes⟩ }

/-- The table that only knows the root class. -/
def empty : TypeTable :=
  declareClass ⟨.empty, #[], ∅, ∅, ∅⟩ rootTypeName [] []

instance : Inhabited TypeTable := ⟨empty⟩

/-- The number of interned types. -/
def size (table : TypeTable) : Nat :=
  table.types.size

/-- The type with a number. -/
def get? (table : TypeTable) (id : TypeId) : Option TypeData :=
  table.types[id]?

/-- The number of a type, which is the next free one when the type is new. -/
def internType (table : TypeTable) (data : TypeData) : TypeId × TypeTable :=
  match table.typeIds[data]? with
  | some id => (id, table)
  | none =>
    let id := table.size
    (id, { table with types := table.types.push data, typeIds := table.typeIds.insert data id })

/-- The number of a class name. -/
def internName (table : TypeTable) (name : String) : Atom × TypeTable :=
  let (atom, interner) := table.interner.intern name
  (atom, { table with interner })

def classType (table : TypeTable) (name : String) (arguments : List TypeId)
    : TypeId × TypeTable :=
  let (head, table) := table.internName name
  table.internType ⟨head, arguments, false⟩

/-- The nullable form of a type. A type that is nullable already, or not in the table, is kept. -/
def nullable (table : TypeTable) (id : TypeId) : TypeId × TypeTable :=
  match table.get? id with
  | none => (id, table)
  | some data => if data.nullable then (id, table) else table.internType { data with nullable := true }

/-- Records the type of a declaration, in place of an earlier one. -/
def recordDeclarationType (table : TypeTable) (node : NodeRef) (id : TypeId) : TypeTable :=
  { table with declarationTypes := table.declarationTypes.insert node id }

end TypeTable

end PropertyLint
