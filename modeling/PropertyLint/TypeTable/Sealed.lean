import PropertyLint.TypeTable.Service
import PropertyLint.TypeTable.Supertypes

/-! Sealed type tables.

Sealing works out the direct supertypes of every type in the table, also of the types that this
brings in, so that afterwards every question is a read. Some class hierarchies grow without end;
sealing stops after a fixed number of types.
-/

namespace PropertyLint

/-- The number of types whose supertypes are worked out at most. -/
def maxSealedTypes : Nat := 100000

/-- A table with the direct supertypes of its first types, by number. -/
structure SealedTable where
  table : TypeTable
  supertypes : Array (List TypeId)

instance : Inhabited SealedTable := ⟨⟨.empty, #[]⟩⟩

/-- Works out the supertypes of up to `budget` more types, in the order of their numbers. -/
def TypeTable.sealWithin (table : TypeTable) (known : Array (List TypeId)) : Nat → SealedTable
  | 0 => ⟨table, known⟩
  | budget + 1 =>
    if known.size < table.size then
      let (ids, table) := table.supertypes known.size
      table.sealWithin (known.push ids) budget
    else ⟨table, known⟩

/-- Works out the supertypes of every type. The sealed table's own table is the grown one. -/
def TypeTable.seal (table : TypeTable) : SealedTable :=
  table.sealWithin #[] maxSealedTypes

/-- The spelling of a type whose arguments nest less than `budget` levels deep.
A type that is not in the table is spelled as nothing.
-/
def TypeTable.displayWithin (table : TypeTable) : Nat → TypeId → String
  | 0, _ => ""
  | budget + 1, id =>
    match table.get? id with
    | none => ""
    | some data =>
      spellType (table.interner.resolve data.head)
        (data.arguments.map (table.displayWithin budget)) data.nullable

/-- The full spelling of a type. No type contains itself, so the number of types bounds its depth. -/
def TypeTable.display (table : TypeTable) (id : TypeId) : String :=
  table.displayWithin (table.size + 1) id

namespace SealedTable

def declarationType? (sealed : SealedTable) (node : NodeRef) : Option TypeId :=
  sealed.table.declarationTypes[node]?

/-- The direct supertypes that sealing worked out. -/
def supertypesOf (sealed : SealedTable) (id : TypeId) : List TypeId :=
  sealed.supertypes.getD id []

/-- The name of the class that a type applies. -/
def headName (sealed : SealedTable) (id : TypeId) : String :=
  ((sealed.table.get? id).map fun data => sealed.table.interner.resolve data.head).getD ""

def arguments (sealed : SealedTable) (id : TypeId) : List TypeId :=
  ((sealed.table.get? id).map TypeData.arguments).getD []

def service (sealed : SealedTable) : TypeService where
  declarationType? := sealed.declarationType?
  supertypes := sealed.supertypesOf
  headName := sealed.headName
  arguments := sealed.arguments
  display := sealed.table.display

end SealedTable

end PropertyLint
