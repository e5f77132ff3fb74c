import Mathlib.Data.List.Permutation
import PropertyLint.Proofs.TypeTable.Sealing
import PropertyLint.TypeTable.Builtin

/-! Call histories: everything that callers can do to a type table, in any order.
Every call keeps the invariant of the table and the numbers that have been given out, so both hold
after every history, by one induction on histories.
-/

namespace PropertyLint

/-- A call that may change a type table, with what the caller gives. -/
inductive TableCall where
  | declareClass (name : String) (params : List String) (supertypes : List TypeTemplate)
  | classType (name : String) (arguments : List TypeId)
  | nullable (id : TypeId)
  | supertypes (id : TypeId)
  | sealTypes
  | recordDeclarationType (node : NodeRef) (id : TypeId)

namespace TableCall

/-- The table after the call. -/
def apply (table : TypeTable) : TableCall → TypeTable
  | .declareClass name params templates => table.declareClass name params templates
  | .classType name arguments => (table.classType name arguments).2
  | .nullable id => (table.nullable id).2
  | .supertypes id => (table.supertypes id).2
  | .sealTypes => table.seal.table
  | .recordDeclarationType node id => table.recordDeclarationType node id

/-- The types that the caller gives as the arguments of another one. -/
def arguments : TableCall → List TypeId
  | .classType _ arguments => arguments
  | .declareClass .. | .nullable _ | .supertypes _ | .sealTypes | .recordDeclarationType .. => []

/-- What callers promise: the arguments that they give exist. -/
def Allowed (table : TypeTable) (call : TableCall) : Prop :=
  ∀ argument ∈ call.arguments, argument < table.size

end TableCall

namespace TypeTable

/-- The table results from one of the initial tables by calls with existing arguments. -/
inductive Reachable : TypeTable → Prop
  | empty : Reachable .empty
  | withBuiltins : Reachable .withBuiltins
  | step {table} (earlier : Reachable table) (call : TableCall) (allowed : call.Allowed table)
    : Reachable (call.apply table)

variable {table : TypeTable}

-----------------------------------------------------------------------------------------
-- Every call keeps the invariant and the numbers
-----------------------------------------------------------------------------------------

/-- Declaring a class adds names only. -/
theorem Sound.declareClass (sound : table.Sound) (name : String) (params : List String)
    (supertypes : List TypeTemplate)
    : (table.declareClass name params supertypes).Sound
      ∧ Grown table (table.declareClass name params supertypes) := by
  have consistent := sound.names.intern name
  have extended := (table.interner.intern_extends name).trans
    ((table.interner.intern name).2.internAll_extends params)
  have grown := sound.withInterner (consistent.internAll params) extended
  refine ⟨?_, extended, fun found => found⟩
  exact {
    names := grown.names
    emptyName := grown.emptyName
    types := grown.types
    heads := grown.heads
    descending := grown.descending
    params := by
      intro atom declaration found param member
      simp only [TypeTable.declareClass, Std.HashMap.getElem?_insert] at found
      split at found
      · rw [← Option.some.inj found] at member
        exact (consistent.internAll_names params).lt_size param member
      · exact grown.params found param member
  }

/-- Declares classes one after another. -/
def declareAll (table : TypeTable) (headers : List ClassHeader) : TypeTable :=
  headers.foldl
    (fun table header => table.declareClass header.name header.params header.supertypes) table

/-- Declaring several classes keeps the invariant, by induction on them. -/
theorem Sound.declareAll (sound : table.Sound) (headers : List ClassHeader)
    : (table.declareAll headers).Sound := by
  induction headers generalizing table with
  | nil => exact sound
  | cons header rest ih => exact ih (sound.declareClass ..).1

/-- The table before any declaration is sound. -/
theorem blank_sound : Sound ⟨.empty, #[], ∅, ∅, ∅⟩ where
  names := Interner.empty_consistent
  emptyName := rfl
  types := by simp [Numbered]
  heads := by simp [TypeTable.get?]
  descending := by simp [TypeTable.get?]
  params := by simp

theorem empty_sound : Sound .empty :=
  (blank_sound.declareClass ..).1

theorem withBuiltins_sound : Sound .withBuiltins :=
  empty_sound.declareAll builtinClasses

/-- Every call keeps the invariant and the numbers that have been given out. -/
theorem Sound.apply (sound : table.Sound) (call : TableCall) (allowed : call.Allowed table)
    : (call.apply table).Sound ∧ Grown table (call.apply table) := by
  cases call with
  | declareClass name params supertypes => exact sound.declareClass name params supertypes
  | classType name arguments =>
      have interns := sound.classType allowed name
      exact ⟨interns.sound, interns.grown⟩
  | nullable id =>
      by_cases known : id < table.size
      · have interns := (sound.nullable known).1
        exact ⟨interns.sound, interns.grown⟩
      · rw [TableCall.apply, nullable_missing known]
        exact ⟨sound, .refl table⟩
  | supertypes id =>
      by_cases known : id < table.size
      · have interns := (sound.supertypes known).1
        exact ⟨interns.sound, interns.grown⟩
      · rw [TableCall.apply, supertypes_missing known]
        exact ⟨sound, .refl table⟩
  | sealTypes => exact ⟨sound.sealed.1.sound, sound.sealed.1.grown⟩
  | recordDeclarationType node id =>
      have same : Sound (table.recordDeclarationType node id) := {
        names := sound.names
        emptyName := sound.emptyName
        types := sound.types
        heads := sound.heads
        descending := sound.descending
        params := sound.params
      }
      exact ⟨same, .refl _, fun found => found⟩

/-- Every history keeps the invariant, by induction on it. -/
theorem Reachable.sound (reachable : Reachable table) : table.Sound := by
  induction reachable with
  | empty => exact empty_sound
  | withBuiltins => exact withBuiltins_sound
  | step _ call allowed ih => exact (ih.apply call allowed).1

-----------------------------------------------------------------------------------------
-- Sealed answers
-----------------------------------------------------------------------------------------

/-- A table whose class `Chain` has ever longer supertypes: a chain of `T` is also a chain of
lists of `T`.
-/
def chain : TypeTable :=
  [.declareClass "Chain" ["T"] [.generic "Chain" [.generic "List" [.param 0]]],
    .classType "Int" [],
    .classType "Chain" [0]].foldl TableCall.apply .empty

theorem chain_reachable : Reachable chain := by
  have declared := Reachable.empty.step
    (.declareClass "Chain" ["T"] [.generic "Chain" [.generic "List" [.param 0]]])
    (by simp [TableCall.Allowed, TableCall.arguments])
  have first := declared.step (.classType "Int" [])
    (by simp [TableCall.Allowed, TableCall.arguments])
  refine first.step (.classType "Chain" [0]) ?_
  intro argument member
  obtain rfl := List.mem_singleton.mp member
  cbv

/-- The second type of the sample table is a chain of the first one. -/
theorem chain_get? : chain.get? 1 = some ⟨2, [0], false⟩ := by
  cbv

/-- After every history, sealing works out for each type up to the greatest number of them what
instantiation gives on the sealed table, where it changes nothing any more; other types have no
answer. Sealing keeps all types, classes and recorded types, and sealing again changes nothing.
-/
theorem sealing_agrees_with_instantiation (reachable : Reachable table)
    : (∀ id,
        id < table.seal.table.size
        → id < maxSealedTypes
        → table.seal.table.supertypes id = (table.seal.supertypesOf id, table.seal.table))
      ∧ (∀ id,
          ¬ (id < table.seal.table.size ∧ id < maxSealedTypes)
          → table.seal.supertypesOf id = [])
      ∧ (∀ id data, table.get? id = some data → table.seal.table.get? id = some data)
      ∧ table.seal.table.classes = table.classes
      ∧ table.seal.table.declarationTypes = table.declarationTypes
      ∧ table.seal.table.seal = table.seal := by
  have sound := reachable.sound
  have interns := sound.sealed.1
  refine ⟨?_, ?_, ?_, interns.classes, interns.declarationTypes, sound.seal_seal⟩
  · intro id inside sealed
    exact sound.supertypesOf_seal inside sealed
  · intro id outside
    exact sound.supertypesOf_seal_eq_nil outside
  · intro id data found
    exact interns.grown.types found

/-- The supertypes of the sample chain never end, so that sealing stops at the limit; what it has
worked out is right all the same.
-/
theorem chain_seal_agrees
    : Reachable chain
      ∧ chain.get? 1 = some ⟨2, [0], false⟩
      ∧ 1 < chain.seal.table.size
      ∧ chain.seal.table.supertypes 1 = (chain.seal.supertypesOf 1, chain.seal.table)
      ∧ chain.seal.supertypesOf 100000 = []
      ∧ chain.seal.table.seal = chain.seal := by
  obtain ⟨agree, outside, kept, _, _, again⟩ := sealing_agrees_with_instantiation chain_reachable
  have inside := lt_size_of_get? (kept 1 _ chain_get?)
  refine ⟨chain_reachable, chain_get?, inside, agree 1 inside (by simp [maxSealedTypes]), ?_, again⟩
  exact outside 100000 (by simp [maxSealedTypes])

end TypeTable

end PropertyLint
