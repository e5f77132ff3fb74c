import PropertyLint.Proofs.Forest.EditHistory
import PropertyLint.Proofs.Forest.FreshAttachment

/-! What is left of the type references that callers have made.
A type reference is never rewritten: it stays as it was made until it is removed. From the root of a
tree the expression is therefore read back that the tree was made for, or nothing, when a part of
the tree is gone.
-/

namespace PropertyLint

namespace Forest

variable {forest before middle after : Forest} {id property type : NodeId} {ref : NodeRef}

-----------------------------------------------------------------------------------------
-- What every step of an edit keeps
-----------------------------------------------------------------------------------------

/-- A relation between forests that holds along growth, new nodes, removals and filled slots. None
of them asks for sound links.
-/
structure Persists (relation : Forest → Forest → Prop) : Prop where
  trans
    : ∀ {before middle after},
        relation before middle → relation middle after → relation before after
  grown : ∀ {before after}, Grown before after → relation before after
  push : ∀ forest ref span data, relation forest (forest.push ref span data).2
  remove : ∀ forest ref, relation forest (forest.remove ref)
  fillSlot : ∀ forest property type, relation forest (forest.fillSlot property type)

section Persists

variable {relation : Forest → Forest → Prop} (persists : Persists relation)

include persists

theorem Persists.refl (forest : Forest) : relation forest forest :=
  persists.grown (.refl forest)

/-- A named declaration takes its name and then its place. -/
theorem Persists.declare (forest : Forest) (ref : NodeRef) (name : String) (span : Span)
    (data : NodeData)
    : relation forest ((forest.intern name).2.push ref span data).2 :=
  persists.trans (persists.grown (.intern forest name)) (persists.push _ ref span data)

theorem Persists.attachType (forest : Forest) (property typeRef : NodeRef)
    : relation forest (forest.attachType property typeRef).2 := by
  unfold Forest.attachType
  split
  · rename_i type typeData data found typed
    cases property with
    | none => cases found
    | some target =>
        dsimp only
        split
        · exact persists.refl forest
        · split
          · exact persists.refl forest
          · exact persists.trans (persists.remove forest data.typeSlot)
              (persists.fillSlot _ target type)
  · exact persists.refl forest

/-- Such a relation holds along every edit. -/
theorem Persists.edit (forest : Forest) (edit : Edit) : relation forest (edit.apply forest) := by
  cases edit with
  | addSourceFile fileName span => exact persists.push forest none span (.sourceFile fileName)
  | addClass parent name span => exact persists.declare forest parent name span _
  | addFunction parent name span => exact persists.declare forest parent name span _
  | addBlock parent span => exact persists.push forest parent span .block
  | addProperty parent name isMutable span nameSpan =>
      exact persists.declare forest parent name span _
  | addTypedProperty parent name typeText span nameSpan =>
      rw [apply_addTypedProperty]
      split
      · exact persists.refl forest
      · rename_i expr _
        have added := persists.grown (addType_appended forest expr).grown
        have declared := persists.declare (forest.addType expr).2 parent name span
        exact persists.trans (persists.trans added (declared _)) (persists.attachType _ _ _)
  | addTypeText text =>
      rw [apply_addTypeText]
      split
      · exact persists.refl forest
      · exact persists.grown (addType_appended forest _).grown
  | addType expr => exact persists.grown (addType_appended forest expr).grown
  | attachType property typeRef => exact persists.attachType forest property typeRef
  | remove ref => exact persists.remove forest ref
  | intern text => exact persists.grown (.intern forest text)

/-- Such a relation holds along every history, by induction on it, whatever parents are given. -/
theorem Persists.edited {rule : ParentRule} (edited : Edited rule before after)
    : relation before after := by
  induction edited with
  | refl => exact persists.refl before
  | step _ edit _ ih => exact persists.trans ih (persists.edit _ edit)

end Persists

-----------------------------------------------------------------------------------------
-- Type references stay as they are or go
-----------------------------------------------------------------------------------------

/-- The type references of `before` are the same in `after`, as far as they are still there. -/
structure Retains (before after : Forest) : Prop where
  size_le : before.size ≤ after.size
  names : before.interner.Extends after.interner
  types
    : ∀ id < before.size,
        ∀ data,
          after.typeReference? (some id) = some data
          → before.typeReference? (some id) = some data

theorem Retains.trans (first : Retains before middle) (second : Retains middle after)
    : Retains before after where
  size_le := Nat.le_trans first.size_le second.size_le
  names := first.names.trans second.names
  types id known data typed :=
    first.types id known data (second.types id (Nat.lt_of_lt_of_le known first.size_le) data typed)

theorem Grown.retains (grown : Grown before after) : Retains before after where
  size_le := grown.size_le
  names := grown.names
  types id known data typed := by
    rw [typeReference?_eq_some_iff] at typed ⊢
    rwa [grown.content? known] at typed

/-- A new node changes no content, wherever it is listed. -/
theorem content?_push_old {span : Span} {data : NodeData} (known : id < forest.size)
    : (forest.push ref span data).2.content? (some id) = forest.content? (some id) := by
  have old : id ≠ forest.nodes.size := Nat.ne_of_lt known
  rw [push, content?_update_of_data]
  · simp [content?, Array.getElem?_push, old]
  · exact fun _ => rfl

theorem Retains.push (forest : Forest) (ref : NodeRef) (span : Span) (data : NodeData)
    : Retains forest (forest.push ref span data).2 where
  size_le := by simp
  names := by
    rw [interner_push]
    exact .refl _
  types id known data typed := by
    rw [typeReference?_eq_some_iff] at typed ⊢
    rwa [content?_push_old known] at typed

/-- A type reference that is there after a removal was there before. -/
theorem typeReference?_of_remove {root : NodeId} {data : TypeReferenceData}
    (known : id < forest.size)
    (typed : (forest.remove (some root)).typeReference? (some id) = some data)
    : forest.typeReference? (some id) = some data := by
  by_cases below : forest.Below root id
  · by_cases found : root < forest.size
    · rw [typeReference?_eq_some_iff, (queries_remove_below found below known).2.2] at typed
      cases typed
    · rwa [remove_missing (by simpa [size] using found)] at typed
  · rwa [typeReference?_remove_apart below] at typed

theorem Retains.remove (forest : Forest) (ref : NodeRef) : Retains forest (forest.remove ref) where
  size_le := by simp
  names := by
    rw [interner_remove]
    exact .refl _
  types id known data typed := by
    cases ref with
    | none => exact typed
    | some root => exact typeReference?_of_remove known typed

theorem Retains.fillSlot (forest : Forest) (property type : NodeId)
    : Retains forest (forest.fillSlot property type) where
  size_le := by simp
  names := by
    rw [interner_fillSlot]
    exact .refl _
  types id _ data typed := by rwa [typeReference?_fillSlot] at typed

theorem retains_persists : Persists Retains :=
  ⟨.trans, Grown.retains, Retains.push, Retains.remove, Retains.fillSlot⟩

-----------------------------------------------------------------------------------------
-- What is left of a tree
-----------------------------------------------------------------------------------------

mutual

/-- Every node of the tree that was made for the expression is there unchanged, or it is gone. -/
def Remains (forest : Forest) : TypeExpr → NodeId → Prop
  | .star, id =>
    id < forest.size ∧ ∀ data, forest.typeReference? (some id) = some data → data = .star
  | .named name arguments nullable, id =>
    id < forest.size
    ∧ ∃ atoms ids,
        (∀ data,
          forest.typeReference? (some id) = some data → data = .named atoms ids nullable)
        ∧ forest.interner.Names atoms name
        ∧ forest.RemainsAll arguments ids

def RemainsAll (forest : Forest) : List TypeExpr → List NodeId → Prop
  | [], ids => ids = []
  | expr :: rest, ids =>
    ∃ id later, ids = id :: later ∧ forest.Remains expr id ∧ forest.RemainsAll rest later

end

mutual

/-- Of a tree that is there, everything is left, by recursion on the expression. -/
theorem Spells.remains {expr : TypeExpr} {id : NodeId} (spells : forest.Spells expr id)
    : forest.Remains expr id := by
  have known := isTypeReference_lt_size spells.typed
  cases expr with
  | star =>
      simp only [Spells, Remains] at spells ⊢
      refine ⟨known, fun data typed => ?_⟩
      rw [typeReference?_eq_some_iff.mpr spells.1] at typed
      exact (Option.some.inj typed).symm
  | named name arguments nullable =>
      simp only [Spells, Remains] at spells ⊢
      obtain ⟨atoms, ids, content, _, named, rest⟩ := spells
      refine ⟨known, atoms, ids, fun data typed => ?_, named, rest.remains⟩
      rw [typeReference?_eq_some_iff.mpr content] at typed
      exact (Option.some.inj typed).symm
termination_by sizeOf expr

theorem SpellsAll.remains {exprs : List TypeExpr} {ids : List NodeId}
    (spells : forest.SpellsAll exprs ids)
    : forest.RemainsAll exprs ids := by
  cases exprs with
  | nil => simpa only [SpellsAll, RemainsAll] using spells
  | cons expr rest =>
      simp only [SpellsAll, RemainsAll] at spells ⊢
      obtain ⟨id, later, rfl, first, others⟩ := spells
      exact ⟨id, later, rfl, first.remains, others.remains⟩
termination_by sizeOf exprs

end

mutual

/-- What is left can only become less, by recursion on the expression. -/
theorem Remains.retain (retains : Retains before after) {expr : TypeExpr} {id : NodeId}
    (remains : before.Remains expr id)
    : after.Remains expr id := by
  cases expr with
  | star =>
      simp only [Remains] at remains ⊢
      obtain ⟨known, content⟩ := remains
      exact ⟨Nat.lt_of_lt_of_le known retains.size_le, fun data typed =>
        content data (retains.types id known data typed)⟩
  | named name arguments nullable =>
      simp only [Remains] at remains ⊢
      obtain ⟨known, atoms, ids, content, named, rest⟩ := remains
      exact ⟨Nat.lt_of_lt_of_le known retains.size_le, atoms, ids, fun data typed =>
        content data (retains.types id known data typed), named.extend retains.names,
        rest.retain retains⟩
termination_by sizeOf expr

theorem RemainsAll.retain (retains : Retains before after) {exprs : List TypeExpr}
    {ids : List NodeId} (remains : before.RemainsAll exprs ids)
    : after.RemainsAll exprs ids := by
  cases exprs with
  | nil => simpa only [RemainsAll] using remains
  | cons expr rest =>
      simp only [RemainsAll] at remains ⊢
      obtain ⟨id, later, rfl, first, others⟩ := remains
      exact ⟨id, later, rfl, first.retain retains, others.retain retains⟩
termination_by sizeOf exprs

end

mutual

/-- Only the expression that a tree was made for is read back from it, by recursion on the
expression.
-/
theorem Remains.eq_of_read {expr read : TypeExpr} {id : NodeId} {budget : Nat}
    (remains : forest.Remains expr id)
    (found : forest.typeExprWithin budget (some id) = some read)
    : read = expr := by
  cases budget with
  | zero => cases found
  | succ budget =>
      rw [typeExprWithin] at found
      cases typed : forest.typeReference? (some id) with
      | none => simp [typed] at found
      | some data =>
          cases expr with
          | star =>
              simp only [Remains] at remains
              obtain rfl := remains.2 data typed
              simpa [typed, eq_comm] using found
          | named name arguments nullable =>
              simp only [Remains] at remains
              obtain ⟨_, atoms, ids, content, named, rest⟩ := remains
              obtain rfl := content data typed
              simp only [typed, Option.bind_eq_bind, Option.bind_eq_some_iff] at found
              obtain ⟨inner, reads, same⟩ := found
              rw [← Option.some.inj same, rest.eq_of_reads reads, named.resolve]
termination_by sizeOf expr

theorem RemainsAll.eq_of_reads {exprs reads : List TypeExpr} {ids : List NodeId} {budget : Nat}
    (remains : forest.RemainsAll exprs ids)
    (found : (ids.mapM fun id => forest.typeExprWithin budget (some id)) = some reads)
    : reads = exprs := by
  cases exprs with
  | nil =>
      simp only [RemainsAll] at remains
      subst remains
      simpa [eq_comm] using found
  | cons expr rest =>
      simp only [RemainsAll] at remains
      obtain ⟨id, later, rfl, first, others⟩ := remains
      simp only [List.mapM_cons, Option.bind_eq_bind, Option.bind_eq_some_iff] at found
      obtain ⟨head, headRead, tail, tailReads, same⟩ := found
      obtain rfl := Option.some.inj same
      rw [first.eq_of_read headRead, others.eq_of_reads tailReads]
termination_by sizeOf exprs

end

end Forest

-----------------------------------------------------------------------------------------
-- Histories that remember the types they made
-----------------------------------------------------------------------------------------

/-- The expression that an edit adds to the forest, if it adds one. -/
def Edit.type? : Edit → Option TypeExpr
  | .addType expr => some expr
  | .addTypeText text | .addTypedProperty _ _ text _ _ => (TypeExpr.parse text).toOption
  | .addSourceFile .. | .addClass .. | .addFunction .. | .addBlock .. | .addProperty ..
  | .attachType .. | .remove _ | .intern _ => none

namespace Forest

/-- `forest` results from the empty forest by edits whose parents satisfy the rule, and these are
all expressions that were added on the way, each at the root that was made for it.
-/
inductive Crafted (rule : ParentRule) : List (NodeId × TypeExpr) → Forest → Prop
  | empty : Crafted rule [] .empty
  | step {made forest} (earlier : Crafted rule made forest) (edit : Edit)
    (allowed : rule forest edit.parent)
    : Crafted rule (made ++ (edit.type?.map fun expr => ((forest.addType expr).1, expr)).toList)
        (edit.apply forest)

variable {rule : ParentRule} {forest : Forest} {made : List (NodeId × TypeExpr)}

/-- Every history can be told with what it made. -/
theorem reachable_iff_crafted : Reachable rule forest ↔ ∃ made, Crafted rule made forest := by
  constructor
  · intro reachable
    induction reachable with
    | refl => exact ⟨_, .empty⟩
    | step _ edit allowed ih =>
        obtain ⟨made, earlier⟩ := ih
        exact ⟨_, earlier.step edit allowed⟩
  · rintro ⟨made, crafted⟩
    induction crafted with
    | empty => exact .refl
    | step _ edit allowed ih => exact ih.step edit allowed

/-- The tree that an edit makes is there after the edit, as far as the edit has not removed it. -/
theorem remains_edit (consistent : forest.interner.Consistent) {edit : Edit} {expr : TypeExpr}
    (makes : edit.type? = some expr)
    : (edit.apply forest).Remains expr (forest.addType expr).1 := by
  have remains := (addType_spells consistent expr).2.remains
  cases edit with
  | addType other =>
      obtain rfl := Option.some.inj makes
      exact remains
  | addTypeText text =>
      rw [apply_addTypeText]
      cases read : TypeExpr.parse text with
      | error source => simp [Edit.type?, read, Except.toOption] at makes
      | ok other =>
          obtain rfl : other = expr := by simpa [Edit.type?, read, Except.toOption] using makes
          exact remains
  | addTypedProperty parent name text span nameSpan =>
      rw [apply_addTypedProperty]
      cases read : TypeExpr.parse text with
      | error source => simp [Edit.type?, read, Except.toOption] at makes
      | ok other =>
          obtain rfl : other = expr := by simpa [Edit.type?, read, Except.toOption] using makes
          have declared := retains_persists.declare (forest.addType other).2 parent name span
          exact (remains.retain (declared _)).retain (retains_persists.attachType _ _ _)
  | addSourceFile | addClass | addFunction | addBlock | addProperty => cases makes
  | attachType | remove | intern => cases makes

/-- After every history, by induction on it, what is left of a tree that was made still stands for
its expression.
-/
theorem Crafted.remains (crafted : Crafted rule made forest) {id : NodeId} {expr : TypeExpr}
    (member : (id, expr) ∈ made)
    : forest.Remains expr id := by
  induction crafted with
  | empty => cases member
  | @step made forest earlier edit allowed ih =>
      have consistent := (reachable_iff_crafted.mpr ⟨made, earlier⟩).consistent
        Interner.empty_consistent
      rcases List.mem_append.mp member with early | last
      · exact (ih early).retain (retains_persists.edit forest edit)
      · simp only [Option.mem_toList, Option.map_eq_some_iff, Prod.mk.injEq] at last
        obtain ⟨_, makes, rfl, rfl⟩ := last
        exact remains_edit consistent makes

end Forest

end PropertyLint
