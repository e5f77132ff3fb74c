import Mathlib.Logic.ExistsUnique
import PropertyLint.Proofs.TypeTable.CallHistory

/-! The trees that types stand for.
A number stands for a class name applied to the trees of its arguments. Arguments come before their
types, so every type has a tree, and interning makes trees and numbers correspond one to one.
-/

namespace PropertyLint

/-- A type written out in full: the name of a class, the trees of its arguments, and whether it is
nullable.
-/
inductive TypeTree where
  | applied (name : String) (arguments : List TypeTree) (nullable : Bool)

namespace TypeTable

variable {table before after : TypeTable} {id other : TypeId}

mutual

/-- The type at a number is the tree. -/
inductive Denotes (table : TypeTable) : TypeId → TypeTree → Prop
  | applied {id data trees} (found : table.get? id = some data)
    (inner : DenotesAll table data.arguments trees)
    : Denotes table id (.applied (table.interner.resolve data.head) trees data.nullable)

/-- The types are the trees, one by one. -/
inductive DenotesAll (table : TypeTable) : List TypeId → List TypeTree → Prop
  | nil : DenotesAll table [] []
  | cons {id ids tree trees} (first : Denotes table id tree) (others : DenotesAll table ids trees)
    : DenotesAll table (id :: ids) (tree :: trees)

end

-----------------------------------------------------------------------------------------
-- Every type has one tree
-----------------------------------------------------------------------------------------

/-- Types that have trees one by one have a list of trees, by induction on the list. -/
theorem exists_denotesAll {ids : List TypeId} (denoting : ∀ id ∈ ids, ∃ tree, table.Denotes id tree)
    : ∃ trees, table.DenotesAll ids trees := by
  induction ids with
  | nil => exact ⟨[], .nil⟩
  | cons id rest ih =>
      obtain ⟨tree, first⟩ := denoting id (List.mem_cons_self ..)
      obtain ⟨trees, others⟩ := ih fun id member => denoting id (List.mem_cons_of_mem _ member)
      exact ⟨tree :: trees, .cons first others⟩

/-- Every type of the table has a tree, by induction on its number: arguments come before it. -/
theorem Sound.exists_denotes (sound : table.Sound) (known : id < table.size)
    : ∃ tree, table.Denotes id tree := by
  induction id using Nat.strongRecOn with
  | ind id ih =>
      obtain ⟨data, found⟩ := get?_isSome_iff.mpr known
      have fits := sound.fits found
      obtain ⟨trees, inner⟩ := exists_denotesAll fun argument member =>
        ih argument (sound.descending found argument member) (fits.arguments argument member)
      exact ⟨_, .applied found inner⟩

mutual

/-- A type has at most one tree, by recursion on the tree. -/
theorem Denotes.unique {id : TypeId} {tree otherTree : TypeTree} (denotes : table.Denotes id tree)
    (otherDenotes : table.Denotes id otherTree)
    : tree = otherTree := by
  cases denotes with
  | applied found inner =>
      cases otherDenotes with
      | applied otherFound otherInner =>
          obtain rfl := Option.some.inj (found.symm.trans otherFound)
          rw [inner.unique otherInner]
termination_by sizeOf tree

theorem DenotesAll.unique {ids : List TypeId} {trees otherTrees : List TypeTree}
    (denotes : table.DenotesAll ids trees) (otherDenotes : table.DenotesAll ids otherTrees)
    : trees = otherTrees := by
  cases denotes with
  | nil =>
      cases otherDenotes
      rfl
  | cons first others =>
      cases otherDenotes with
      | cons otherFirst otherOthers => rw [first.unique otherFirst, others.unique otherOthers]
termination_by sizeOf trees

end

mutual

/-- A type keeps its tree while the table grows, by recursion on the tree. -/
theorem Denotes.grow (sound : before.Sound) (grown : Grown before after) {id : TypeId}
    {tree : TypeTree} (denotes : before.Denotes id tree)
    : after.Denotes id tree := by
  cases denotes with
  | applied found inner =>
      rw [← grown.names.resolve (sound.heads found)]
      exact .applied (grown.types found) (inner.grow sound grown)
termination_by sizeOf tree

theorem DenotesAll.grow (sound : before.Sound) (grown : Grown before after) {ids : List TypeId}
    {trees : List TypeTree} (denotes : before.DenotesAll ids trees)
    : after.DenotesAll ids trees := by
  cases denotes with
  | nil => exact .nil
  | cons first others => exact .cons (first.grow sound grown) (others.grow sound grown)
termination_by sizeOf trees

end

-----------------------------------------------------------------------------------------
-- Every tree has one number
-----------------------------------------------------------------------------------------

mutual

/-- Types with the same tree have the same number, by recursion on the tree: their arguments are
the same already, and the same name has the same atom, so they are stored as the same type.
-/
theorem Sound.eq_of_denotes (sound : table.Sound) {id other : TypeId} {tree : TypeTree}
    (denotes : table.Denotes id tree) (otherDenotes : table.Denotes other tree)
    : id = other := by
  generalize same : tree = otherTree at otherDenotes
  cases denotes with
  | @applied _ data trees found inner =>
      cases otherDenotes with
      | @applied _ otherData otherTrees otherFound otherInner =>
          obtain ⟨name, rfl, nullable⟩ := TypeTree.applied.inj same
          have head : data.head = otherData.head :=
            sound.names.eq_of_resolve (sound.heads found) (sound.heads otherFound) name
          have arguments := sound.eq_of_denotesAll inner otherInner
          have stored : data = otherData := by
            rcases data with ⟨_, _, _⟩
            rcases otherData with ⟨_, _, _⟩
            exact TypeData.mk.injEq .. ▸ ⟨head, arguments, nullable⟩
          exact sound.eq_of_get? found (stored ▸ otherFound)
termination_by sizeOf tree

theorem Sound.eq_of_denotesAll (sound : table.Sound) {ids others : List TypeId}
    {trees : List TypeTree} (denotes : table.DenotesAll ids trees)
    (otherDenotes : table.DenotesAll others trees)
    : ids = others := by
  cases denotes with
  | nil =>
      cases otherDenotes
      rfl
  | cons first rest =>
      cases otherDenotes with
      | cons otherFirst otherRest =>
          rw [sound.eq_of_denotes first otherFirst, sound.eq_of_denotesAll rest otherRest]
termination_by sizeOf trees

end

-----------------------------------------------------------------------------------------
-- The spelling of a type
-----------------------------------------------------------------------------------------

/-- Budgets beyond a number spell its type the same, by induction on the number: arguments come
before it.
-/
theorem Sound.displayWithin_eq (sound : table.Sound) {budget spare : Nat} (enough : id < budget)
    (spareEnough : id < spare)
    : table.displayWithin budget id = table.displayWithin spare id := by
  induction id using Nat.strongRecOn generalizing budget spare with
  | ind id ih =>
      cases budget with
      | zero => exact absurd enough (Nat.not_lt_zero _)
      | succ budget =>
          cases spare with
          | zero => exact absurd spareEnough (Nat.not_lt_zero _)
          | succ spare =>
              simp only [displayWithin]
              cases found : table.get? id with
              | none => rfl
              | some data =>
                  have inner : data.arguments.map (table.displayWithin budget)
                      = data.arguments.map (table.displayWithin spare) := by
                    refine List.map_congr_left fun argument member => ?_
                    have descends := sound.descending found argument member
                    have within := Nat.lt_of_lt_of_le descends (Nat.lt_succ_iff.mp enough)
                    have spareWithin :=
                      Nat.lt_of_lt_of_le descends (Nat.lt_succ_iff.mp spareEnough)
                    exact ih argument descends within spareWithin
                  simp only [inner]

/-- The budget never shows: the spelling of a type is made from the spellings of its arguments, and
what is not in the table is spelled as nothing.
-/
theorem Sound.display_eq (sound : table.Sound) (id : TypeId)
    : table.display id
      = match table.get? id with
        | none => ""
        | some data =>
          spellType (table.interner.resolve data.head) (data.arguments.map table.display)
            data.nullable := by
  rw [display, displayWithin]
  cases found : table.get? id with
  | none => rfl
  | some data =>
      have inner : data.arguments.map (table.displayWithin table.size)
          = data.arguments.map table.display := by
        refine List.map_congr_left fun argument member => ?_
        have known := (sound.fits found).arguments argument member
        exact sound.displayWithin_eq known (Nat.lt_succ_of_lt known)
      simp only [inner]

-----------------------------------------------------------------------------------------
-- Canonical numbers
-----------------------------------------------------------------------------------------

/-- After every history, arguments have smaller numbers than their types, so that spelling a type
comes to an end; every type has one tree; two types are the same exactly when their trees are; and
no further call changes a type that has a number.
-/
theorem reachable_ids_canonical (reachable : Reachable table)
    : (∀ id data, table.get? id = some data → ∀ argument ∈ data.arguments, argument < id)
      ∧ (∀ id,
          table.display id
          = match table.get? id with
            | none => ""
            | some data =>
              spellType (table.interner.resolve data.head) (data.arguments.map table.display)
                data.nullable)
      ∧ (∀ call : TableCall,
          call.Allowed table
          → ∀ id data, table.get? id = some data → (call.apply table).get? id = some data)
      ∧ (∀ id, id < table.size → ∃! tree, table.Denotes id tree)
      ∧ (∀ id other tree otherTree,
          table.Denotes id tree
          → table.Denotes other otherTree
          → (id = other ↔ tree = otherTree)) := by
  have sound := reachable.sound
  refine ⟨fun id data found => sound.descending found, sound.display_eq, ?_, ?_, ?_⟩
  · intro call allowed id data found
    exact (sound.apply call allowed).2.types found
  · intro id known
    obtain ⟨tree, denotes⟩ := sound.exists_denotes known
    exact ⟨tree, denotes, fun other otherDenotes => otherDenotes.unique denotes⟩
  · intro id other tree otherTree denotes otherDenotes
    constructor
    · rintro rfl
      exact denotes.unique otherDenotes
    · rintro rfl
      exact sound.eq_of_denotes denotes otherDenotes

/-- A chain of `Int` is spelled in full, has no second number, and keeps its number when it is
interned again.
-/
theorem chain_ids_canonical
    : Reachable chain
      ∧ chain.get? 1 = some ⟨2, [0], false⟩
      ∧ (∀ id,
          chain.Denotes id (.applied "Chain" [.applied "Int" [] false] false) ↔ id = 1)
      ∧ TableCall.Allowed chain (.classType "Chain" [0])
      ∧ ((TableCall.classType "Chain" [0]).apply chain).get? 1 = some ⟨2, [0], false⟩ := by
  obtain ⟨_, _, kept, _, canonical⟩ := reachable_ids_canonical chain_reachable
  have allowed : TableCall.Allowed chain (.classType "Chain" [0]) := by
    intro argument member
    obtain rfl := List.mem_singleton.mp member
    cbv
  have innerFound : chain.get? 0 = some ⟨4, [], false⟩ := by cbv
  have innerName : chain.interner.resolve 4 = "Int" := by cbv
  have name : chain.interner.resolve 2 = "Chain" := by cbv
  have inner : chain.Denotes 0 (.applied "Int" [] false) :=
    innerName ▸ .applied innerFound .nil
  have whole : chain.Denotes 1 (.applied "Chain" [.applied "Int" [] false] false) :=
    name ▸ .applied chain_get? (.cons inner .nil)
  refine ⟨chain_reachable, chain_get?, ?_, allowed, kept _ allowed 1 _ chain_get?⟩
  intro id
  constructor
  · intro denotes
    exact (canonical id 1 _ _ denotes whole).mpr rfl
  · rintro rfl
    exact whole

end TypeTable

end PropertyLint
