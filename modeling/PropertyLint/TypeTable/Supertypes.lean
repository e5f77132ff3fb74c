import PropertyLint.TypeTable.Basic

/-! The direct supertypes of a type: its class's templates with its arguments put in. -/

namespace PropertyLint.TypeTable

mutual

/-- Puts arguments for the parameters of a template and interns the result, arguments first.
A parameter without an argument stays as the type named after it.
-/
def instantiate (table : TypeTable) (arguments : List TypeId) (params : List Atom)
    : TypeTemplate → TypeId × TypeTable
  | .param index =>
    match arguments[index]? with
    | some argument => (argument, table)
    | none => table.internType ⟨params[index]?.getD 0, [], false⟩
  | .named name templates nullable =>
    let (ids, table) := table.instantiateAll arguments params templates
    let (head, table) := table.internName name
    table.internType ⟨head, ids, nullable⟩

/-- Instantiates templates from left to right. -/
def instantiateAll (table : TypeTable) (arguments : List TypeId) (params : List Atom)
    : List TypeTemplate → List TypeId × TypeTable
  | [] => ([], table)
  | template :: rest =>
    let (id, table) := table.instantiate arguments params template
    let (ids, table) := table.instantiateAll arguments params rest
    (id :: ids, table)

end

/-- Instantiates templates from left to right, each made nullable when `lift` holds. -/
def instantiateLifted (table : TypeTable) (arguments : List TypeId) (params : List Atom)
    (lift : Bool) : List TypeTemplate → List TypeId × TypeTable
  | [] => ([], table)
  | template :: rest =>
    let (id, table) := table.instantiate arguments params template
    let (id, table) := if lift then table.nullable id else (id, table)
    let (ids, table) := table.instantiateLifted arguments params lift rest
    (id :: ids, table)

/-- The direct supertypes of a type, in the order of its class's declaration.
The supertypes of a nullable type are nullable. A type whose class is not declared has none.
-/
def supertypes (table : TypeTable) (id : TypeId) : List TypeId × TypeTable :=
  match table.get? id with
  | none => ([], table)
  | some data =>
    match table.classes[data.head]? with
    | none => ([], table)
    | some declaration =>
      table.instantiateLifted data.arguments declaration.params data.nullable
        declaration.supertypes

end PropertyLint.TypeTable
