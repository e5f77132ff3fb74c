import PropertyLint.Proofs.Forest.Attachment

/-! Writing a fresh type for a property of any forest.
A type that has just been added is detached, so that attaching it is never refused, whatever else
stands in the forest. A property without a type takes it, and is printed with its spelling.
-/

namespace PropertyLint.Forest

variable {forest before after : Forest} {property : NodeId} {data : PropertyData}

-----------------------------------------------------------------------------------------
-- Fresh types are never refused
-----------------------------------------------------------------------------------------

section Fresh

variable (found : forest.property? (some property) = some data) (expr : TypeExpr)

include found

/-- Adding a type changes no property. -/
theorem property?_addType
    : (forest.addType expr).2.property? (some property) = some data := by
  have grown := (addType_appended forest expr).grown
  rw [property?_congr (grown.content? (property?_lt_size found)), found]

omit found in
theorem isTypeReference_addType
    : (forest.addType expr).2.isTypeReference (forest.addType expr).1 := by
  have appended := addType_appended forest expr
  obtain ⟨fresh, known⟩ := appended.fresh _ (List.mem_singleton_self _)
  exact appended.grown.typed _ known fresh

omit found in
theorem parentOf_addType
    : (forest.addType expr).2.parentOf (some (forest.addType expr).1) = none :=
  (addType_appended forest expr).free _ (List.mem_singleton_self _)

/-- An added type is free for every property whose slot does not name it. -/
theorem attaches_addType (other : data.typeSlot ≠ some (forest.addType expr).1)
    : (forest.addType expr).2.Attaches property (forest.addType expr).1 data where
  property := property?_addType found expr
  typed := isTypeReference_addType expr
  free := parentOf_addType expr
  other := other

/-- Where slots name types that are there, an added type is free for every property. -/
theorem Coherent.attaches_addType (coherent : forest.Coherent)
    : (forest.addType expr).2.Attaches property (forest.addType expr).1 data := by
  have fresh := (addType_added coherent expr).1.fresh _ List.mem_cons_self
  refine Forest.attaches_addType found expr fun filled => ?_
  exact Nat.not_lt.mpr fresh.1 (parentOf_lt_size (coherent.slot found filled).1)

/-- Attaching an added type is never refused. A slot that named a node to come, as no caller can
bring about, would have the type already.
-/
theorem attachType_addType_isDone
    : let added := forest.addType expr
      (added.2.attachType (some property) (some added.1)).1.isDone := by
  intro added
  by_cases filled : data.typeSlot = some (forest.addType expr).1
  · have typed : (forest.addType expr).2.isTypeReference (forest.addType expr).1 :=
      isTypeReference_addType expr
    obtain ⟨typeData, content⟩ := isTypeReference_iff.mp typed
    simp [added, attachType, typeReference?_eq_some_iff.mpr content, property?_addType found expr,
      parentOf_addType, filled, Attachment.isDone]
  · rw [(attaches_addType found expr filled).attachType]
    rfl

end Fresh

-----------------------------------------------------------------------------------------
-- A fresh type is printed with its spelling
-----------------------------------------------------------------------------------------

/-- Filling a slot changes no type reference, so that all are printed as before. -/
theorem typeText?_fillSlot (property type id : NodeId)
    : (forest.fillSlot property type).typeText? (some id) = forest.typeText? (some id) := by
  rw [typeText?_eq, typeText?_eq, typeExpr?, typeExpr?, size_fillSlot,
    typeExprWithin_congr (fun _ => True) (fun _ _ => ⟨typeReference?_fillSlot, by simp⟩) _ trivial]

/-- The added type is printed with the spelling of its expression. -/
theorem typeText?_addType (consistent : forest.interner.Consistent) (expr : TypeExpr)
    : (forest.addType expr).2.typeText? (some (forest.addType expr).1) = some expr.spelling := by
  have spells := (addType_spells consistent expr).2
  have room := nesting_le_size_addType forest expr
  exact spells.typeTextWithin (forest.addType expr).2.size (by omega)

/-- A property without a type takes an added one, and its written type is spelled so. -/
theorem attachType_addType_untyped (consistent : forest.interner.Consistent)
    (found : forest.property? (some property) = some data) (untyped : data.typeSlot = none)
    (expr : TypeExpr)
    : ∃ after,
        (forest.addType expr).2.attachType (some property) (some (forest.addType expr).1)
          = (.attached, after)
        ∧ after.propertyTypeText? (some property) = some expr.spelling := by
  have attaches := attaches_addType found expr (by simp [untyped])
  refine ⟨_, attaches.attachType, ?_⟩
  rw [untyped, remove_none]
  simp [propertyTypeText?, property?_fillSlot, attaches.property, typeText?_fillSlot,
    typeText?_addType consistent]

end PropertyLint.Forest
