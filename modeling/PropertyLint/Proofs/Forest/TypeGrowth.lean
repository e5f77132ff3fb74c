import PropertyLint.Proofs.Forest.Appending

/-! Adding a type expression keeps the invariant of the forest.
The tree that is appended hangs together in both directions, and nothing else has changed.
-/

namespace PropertyLint.Forest

variable {forest before after : Forest} {id parent : NodeId} {ids : List NodeId}

-----------------------------------------------------------------------------------------
-- Adoption keeps the invariant
-----------------------------------------------------------------------------------------

/-- In a linked forest no detached node is listed by the parent that adopts it. -/
theorem Adoptable.unlisted (adoptable : Adoptable forest parent ids) (linked : forest.Linked)
    : ∀ child ∈ ids, child ∉ forest.childrenOf (some parent) := by
  intro child member listed
  have link := (linked.link parent child).mp listed
  rw [adoptable.free child member] at link
  cases link

section Adopt

variable (adoptable : Adoptable forest parent ids) (coherent : forest.Coherent)

include adoptable coherent

/-- The new links enter both directions. -/
theorem Adoptable.linked : (forest.adopt parent ids).Linked where
  link above child := by
    have unlisted := adoptable.unlisted coherent.linked
    rw [adoptable.childrenOf_adopt unlisted, adoptable.parentOf_adopt unlisted]
    have elsewhere (member : child ∈ ids) : child ∉ forest.childrenOf (some above) := by
      rw [coherent.linked.link, adoptable.free child member]
      simp
    by_cases member : child ∈ ids <;> by_cases same : above = parent
    · simp [member, same]
    · simp [member, same, elsewhere member, Ne.symm same]
    · simp [member, same, coherent.linked.link]
    · simp [member, same, coherent.linked.link]
  unique above := by
    have unlisted := adoptable.unlisted coherent.linked
    rw [adoptable.childrenOf_adopt unlisted]
    split
    · rename_i same
      refine List.nodup_append.mpr ⟨coherent.linked.unique above, adoptable.unique, ?_⟩
      intro child listed _ member equal
      subst equal
      exact unlisted child member (same ▸ listed)
    · exact coherent.linked.unique above
  detached id removed := by
    have unlisted := adoptable.unlisted coherent.linked
    rw [adoptable.content?_adopt unlisted] at removed
    rw [adoptable.parentOf_adopt unlisted]
    split
    · rename_i member
      obtain ⟨data, content⟩ := isTypeReference_iff.mp (adoptable.typed id member)
      rw [content] at removed
      cases removed
    · exact coherent.linked.detached id removed

theorem Adoptable.slotted (typed : forest.isTypeReference parent)
    : (forest.adopt parent ids).Slotted := by
  have unlisted := adoptable.unlisted coherent.linked
  intro id data property
  rw [property?_eq_some_iff, adoptable.content?_adopt unlisted] at property
  have other : id ≠ parent := by
    intro equal
    subst equal
    obtain ⟨typeData, content⟩ := isTypeReference_iff.mp typed
    exact property?_ne_typeReference property content
  have kinds : (forest.adopt parent ids).isTypeReference = forest.isTypeReference :=
    funext fun _ => adoptable.isTypeReference_adopt unlisted
  rw [annotations, adoptable.childrenOf_adopt unlisted, if_neg other, kinds]
  exact coherent.slotted id data (property?_eq_some_iff.mpr property)

/-- The adopted type references are older than their parent, as arguments are. -/
theorem Adoptable.ordered : (forest.adopt parent ids).Ordered where
  declaration link other := by
    have unlisted := adoptable.unlisted coherent.linked
    rw [adoptable.parentOf_adopt unlisted] at link
    rw [adoptable.isTypeReference_adopt unlisted] at other
    split at link
    · rename_i member
      rw [adoptable.typed _ member] at other
      cases other
    · exact coherent.ordered.declaration link other
  argument link typedAbove typedChild := by
    have unlisted := adoptable.unlisted coherent.linked
    rw [adoptable.parentOf_adopt unlisted] at link
    rw [adoptable.isTypeReference_adopt unlisted] at typedAbove typedChild
    split at link
    · rename_i member
      exact Option.some.inj link ▸ adoptable.older _ member
    · exact coherent.ordered.argument link typedAbove typedChild

theorem Adoptable.named : (forest.adopt parent ids).Named where
  consistent := by simpa using coherent.named.consistent
  known := by
    intro id data content
    rw [adoptable.content?_adopt (adoptable.unlisted coherent.linked)] at content
    simpa using coherent.named.known content

/-- Adoption below a type reference keeps the invariant. -/
theorem Adoptable.adopt (typed : forest.isTypeReference parent)
    : (forest.adopt parent ids).Coherent where
  linked := adoptable.linked coherent
  slotted := adoptable.slotted coherent typed
  ordered := adoptable.ordered coherent
  named := adoptable.named coherent

end Adopt

-----------------------------------------------------------------------------------------
-- An added expression is a tree of fresh nodes
-----------------------------------------------------------------------------------------

/-- Growth changes nothing below an earlier node. -/
theorem Grown.keptBelow (grown : Grown before after) (linked : before.Linked)
    (known : id < before.size)
    : KeptBelow before after id :=
  fun child below => grown.contents child (linked.below_lt_size known below)

/-- Growth by type references keeps the layers: earlier nodes have their earlier parents. -/
theorem Grown.layered (grown : Grown before after) (linked : before.Linked)
    (layered : before.Layered)
    : after.Layered := by
  intro parent child link typed
  by_cases known : child < before.size
  · rw [grown.parentOf known] at link
    rw [grown.isTypeReference (linked.parent_lt_size link)] at typed
    rw [grown.isTypeReference known]
    exact layered parent child link typed
  · exact grown.typed child (parentOf_lt_size link) (Nat.not_lt.mp known)

/-- What adding expressions gives: fresh roots in a grown forest that keeps the invariant. -/
structure Added (before after : Forest) (roots : List NodeId) : Prop where
  coherent : after.Coherent
  grown : Grown before after
  fresh : ∀ id ∈ roots, before.size ≤ id ∧ id < after.size

theorem Coherent.withRoot (coherent : forest.Coherent) {data : TypeReferenceData}
    (atoms : ∀ atom ∈ data.name, atom < forest.interner.size)
    : (forest.withRoot data).Coherent :=
  coherent.push known_none (by simp) (fun _ => rfl) (by simp) (by simpa [NodeData.atoms])

/-- A new type adopts its arguments, which have just been appended. -/
theorem Coherent.adoptRoots {middle : Forest} (coherent : middle.Coherent)
    (appended : Appended before middle ids) {data : TypeReferenceData}
    (atoms : ∀ atom ∈ data.name, atom < middle.interner.size)
    : ((middle.withRoot data).adopt middle.size ids).Coherent := by
  have typed : (middle.withRoot data).isTypeReference middle.size :=
    isTypeReference_iff.mpr ⟨data, content?_withRoot data⟩
  exact (appended.adoptable data).adopt (coherent.withRoot atoms) typed

mutual

/-- Adding an expression keeps the invariant, by recursion on the expression. -/
theorem Coherent.addType {forest : Forest} (coherent : forest.Coherent) (expr : TypeExpr)
    : (forest.addType expr).2.Coherent := by
  cases expr with
  | star => exact coherent.withRoot (by simp [TypeReferenceData.name])
  | named name arguments nullable =>
      have names := coherent.named.consistent.internAll_names name
      have inner := (coherent.internAll name).addTypes arguments
      have appended := addTypes_appended (forest.internAll name).2 arguments
      exact inner.adoptRoots appended (names.extend appended.grown.names).lt_size
termination_by sizeOf expr

theorem Coherent.addTypes {forest : Forest} (coherent : forest.Coherent) (exprs : List TypeExpr)
    : (forest.addTypes exprs).2.Coherent := by
  cases exprs with
  | nil => exact coherent
  | cons expr rest => exact (coherent.addType expr).addTypes rest
termination_by sizeOf exprs

end

/-- Adding an expression adds one tree that spells it. -/
theorem addType_added (coherent : forest.Coherent) (expr : TypeExpr)
    : Added forest (forest.addType expr).2 [(forest.addType expr).1]
      ∧ (forest.addType expr).2.Spells expr (forest.addType expr).1 :=
  ⟨{ addType_appended forest expr with coherent := coherent.addType expr },
    (addType_spells coherent.named.consistent expr).2⟩

end PropertyLint.Forest
