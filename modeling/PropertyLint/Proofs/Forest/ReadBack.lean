import PropertyLint.Proofs.Forest.NodeView

/-! Reading a type expression back from its type references.
What is read back is an expression where printing makes a text, and the text is its spelling.
-/

namespace PropertyLint

theorem TypeExpr.spellings_eq_map (exprs : List TypeExpr)
    : TypeExpr.spellings exprs = exprs.map TypeExpr.spelling := by
  induction exprs with
  | nil => rfl
  | cons expr rest ih => simp [spellings, ih]

namespace Forest

/-- The expression that a type reference stands for, if its arguments nest less than `budget` levels
deep and all nodes involved are type references.
-/
def typeExprWithin (forest : Forest) : Nat → NodeRef → Option TypeExpr
  | 0, _ => none
  | budget + 1, ref =>
    match forest.typeReference? ref with
    | none => none
    | some .star => some .star
    | some (.named name arguments nullable) => do
      let exprs ← arguments.mapM fun argument => forest.typeExprWithin budget (some argument)
      some (.named (name.map forest.interner.resolve) exprs nullable)

/-- The expression that a type reference stands for. -/
def typeExpr? (forest : Forest) (ref : NodeRef) : Option TypeExpr :=
  forest.typeExprWithin (forest.size + 1) ref

/-- The type written after a property's name, as an expression. -/
def propertyTypeExpr? (forest : Forest) (ref : NodeRef) : Option TypeExpr :=
  (forest.property? ref).bind fun data => forest.typeExpr? data.typeSlot

variable {forest : Forest}

/-- Spelling each of several results is spelling the list of them, by induction on the list. -/
theorem mapM_map_spelling (read : NodeId → Option TypeExpr) (ids : List NodeId)
    : (ids.mapM fun id => (read id).map TypeExpr.spelling)
      = (ids.mapM read).map (List.map TypeExpr.spelling) := by
  induction ids with
  | nil => rfl
  | cons id rest ih =>
      rw [List.mapM_cons, List.mapM_cons, ih]
      cases read id with
      | none => rfl
      | some expr => cases rest.mapM read <;> rfl

/-- Printing spells what is read back, by induction on the budget. -/
theorem typeTextWithin_eq (budget : Nat) (ref : NodeRef)
    : forest.typeTextWithin budget ref
      = (forest.typeExprWithin budget ref).map TypeExpr.spelling := by
  induction budget generalizing ref with
  | zero => rfl
  | succ budget ih =>
      simp only [typeTextWithin, typeExprWithin, ih, mapM_map_spelling]
      cases forest.typeReference? ref with
      | none => rfl
      | some data =>
          cases data with
          | star => rfl
          | named name arguments nullable =>
              dsimp only
              cases arguments.mapM fun argument => forest.typeExprWithin budget (some argument) with
              | none => rfl
              | some exprs => simp [TypeExpr.spelling, TypeExpr.spellings_eq_map]

theorem typeText?_eq (ref : NodeRef)
    : forest.typeText? ref = (forest.typeExpr? ref).map TypeExpr.spelling :=
  typeTextWithin_eq (forest.size + 1) ref

theorem propertyTypeText?_eq (ref : NodeRef)
    : forest.propertyTypeText? ref = (forest.propertyTypeExpr? ref).map TypeExpr.spelling := by
  simp only [propertyTypeText?, propertyTypeExpr?, typeText?_eq, Option.map_bind]
  rfl

theorem mapM_congr {β : Type} {read other : NodeId → Option β} {ids : List NodeId}
    (same : ∀ id ∈ ids, read id = other id)
    : ids.mapM read = ids.mapM other := by
  induction ids with
  | nil => rfl
  | cons id rest ih =>
      rw [List.mapM_cons, List.mapM_cons, same id List.mem_cons_self,
        ih fun child member => same child (List.mem_cons_of_mem id member)]

/-- A list is read when each of its members is, by induction on it. -/
theorem isSome_mapM_iff {β : Type} {read : NodeId → Option β} {ids : List NodeId}
    : (ids.mapM read).isSome ↔ ∀ id ∈ ids, (read id).isSome := by
  induction ids with
  | nil => simp
  | cons id rest ih =>
      rw [List.mapM_cons, List.forall_mem_cons, ← ih]
      cases read id with
      | none => simp
      | some value => cases rest.mapM read <;> simp

/-- Trees are read alike in forests that agree on their nodes, by induction on the budget. A node
that is no type reference in either forest ends the reading in both.
-/
theorem typeExprWithin_congr {before after : Forest} (kept : NodeId → Prop)
    (same
      : ∀ id,
          kept id
          → after.typeReference? (some id) = before.typeReference? (some id)
            ∧ ∀ data,
                before.typeReference? (some id) = some data
                → (∀ atom ∈ data.name,
                    after.interner.resolve atom = before.interner.resolve atom)
                  ∧ ∀ argument ∈ data.arguments, kept argument)
    (budget : Nat) {id : NodeId} (given : kept id)
    : after.typeExprWithin budget (some id) = before.typeExprWithin budget (some id) := by
  induction budget generalizing id with
  | zero => rfl
  | succ budget ih =>
      obtain ⟨types, inner⟩ := same id given
      rw [typeExprWithin, typeExprWithin, types]
      cases typed : before.typeReference? (some id) with
      | none => rfl
      | some data =>
          obtain ⟨names, inside⟩ := inner data typed
          cases data with
          | star => rfl
          | named name arguments nullable =>
              have reads
                  : (arguments.mapM fun argument => after.typeExprWithin budget (some argument))
                    = arguments.mapM fun argument => before.typeExprWithin budget (some argument) :=
                mapM_congr fun argument member => ih (inside argument member)
              have texts : name.map after.interner.resolve = name.map before.interner.resolve :=
                List.map_congr_left names
              simp only [reads, texts]

/-- No type is written where the slot is empty. -/
theorem typeExpr?_none : forest.typeExpr? none = none :=
  rfl

end Forest

end PropertyLint
