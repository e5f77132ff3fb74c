import PropertyLint.Proofs.Forest.FreshAttachment
import PropertyLint.Proofs.Forest.Outline

/-! The written types of properties.
A property carries the text that its annotation spells. Writing a type for one property changes
what that property carries, and neither another property nor the outline of the forest.
-/

namespace PropertyLint.Forest

variable {forest before after : Forest} {id property type first second : NodeId}

-----------------------------------------------------------------------------------------
-- Trees of type references stand apart
-----------------------------------------------------------------------------------------

/-- A type reference that is no argument of another one: it is detached or in a slot. -/
structure TypeRoot (forest : Forest) (id : NodeId) : Prop where
  typed : forest.isTypeReference id
  outermost
    : ∀ parent, forest.parentOf (some id) = some parent → forest.isTypeReference parent = false

theorem Attaches.typeRoot {data : PropertyData} (attaches : forest.Attaches property type data)
    : forest.TypeRoot type where
  typed := attaches.typed
  outermost parent link := by
    rw [attaches.free] at link
    cases link

theorem Coherent.slot_typeRoot (coherent : forest.Coherent) {data : PropertyData}
    (found : forest.property? (some property) = some data) (filled : data.typeSlot = some type)
    : forest.TypeRoot type where
  typed := (coherent.slot found filled).2
  outermost parent link := by
    rw [(coherent.slot found filled).1] at link
    exact Option.some.inj link ▸ isTypeReference_of_property found

/-- Two such trees with different roots share no node, by induction on the descent in the first
one: the way up from a shared node would lead from one tree into the other.
-/
theorem TypeRoot.apart (root : forest.TypeRoot first) (other : forest.TypeRoot second)
    (layered : forest.Layered) (linked : forest.Linked) (ne : first ≠ second)
    (below : forest.Below first id)
    : ¬ forest.Below second id := by
  induction below with
  | refl =>
      intro shared
      obtain ⟨parent, link, reached⟩ := linked.below_parent shared ne
      exact layered.not_below linked other.typed (root.outermost parent link) reached
  | @tail parent child above listed ih =>
      intro shared
      have link := linked.lists_iff.mp listed
      by_cases same : child = second
      · exact layered.not_below linked root.typed (other.outermost parent (same ▸ link)) above
      · obtain ⟨actual, actualLink, reached⟩ := linked.below_parent shared same
        rw [link] at actualLink
        exact ih (Option.some.inj actualLink ▸ reached)

/-- Replacing the type of a property changes no tree but the one that it takes out. -/
theorem Attaches.keptBelow {data : PropertyData} (attaches : forest.Attaches property type data)
    (coherent : forest.Coherent) (layered : forest.Layered) {root : NodeId}
    (typeRoot : forest.TypeRoot root) (other : data.typeSlot ≠ some root)
    : KeptBelow forest ((forest.remove data.typeSlot).fillSlot property type) root := by
  intro id below
  have vacant := attaches.vacant coherent
  have typed := layered.below coherent.linked typeRoot.typed below
  have noProperty : id ≠ property := by
    intro equal
    subst equal
    rw [attaches.property_noType] at typed
    cases typed
  rw [content?_fillSlot noProperty, vacant.childrenOf_fillSlot, if_neg noProperty]
  cases slot : data.typeSlot with
  | none => exact ⟨rfl, rfl⟩
  | some previous =>
      have ne : root ≠ previous := fun same => other (same ▸ slot)
      have apart := typeRoot.apart (coherent.slot_typeRoot attaches.property slot) layered
        coherent.linked ne below
      have plain := property?_of_leaf (isDeclaration_of_isTypeReference typed)
      have former : forest.parentOf (some previous) ≠ some id := by
        rw [(coherent.slot attaches.property slot).1]
        exact fun same => noProperty (Option.some.inj same).symm
      rw [content?_remove_apart apart plain, childrenOf_remove_apart apart, if_neg former]
      exact ⟨rfl, rfl⟩

/-- The property holds the new type in its slot, and nothing else of it has changed. -/
theorem Attaches.property?_filled {data : PropertyData}
    (attaches : forest.Attaches property type data) (coherent : forest.Coherent)
    (layered : forest.Layered)
    : ((forest.remove data.typeSlot).fillSlot property type).property? (some property)
      = some { data with typeSlot := some type } := by
  rw [property?_fillSlot]
  cases slot : data.typeSlot with
  | none => rw [remove_none, attaches.property, Option.map_some]
  | some previous =>
      obtain ⟨link, typed⟩ := coherent.slot attaches.property slot
      have apart := layered.not_below coherent.linked typed attaches.property_noType
      rw [property?_remove_apart apart, attaches.property]
      simp [link, released, slot]

/-- Every other property stays the same. -/
theorem Attaches.property?_other {data : PropertyData}
    (attaches : forest.Attaches property type data) (coherent : forest.Coherent)
    (layered : forest.Layered) (other : id ≠ property)
    : ((forest.remove data.typeSlot).fillSlot property type).property? (some id)
      = forest.property? (some id) := by
  rw [property?_congr (content?_fillSlot other)]
  cases slot : data.typeSlot with
  | none => rfl
  | some previous =>
      obtain ⟨link, typed⟩ := coherent.slot attaches.property slot
      have former : forest.parentOf (some previous) ≠ some id := by
        rw [link]
        exact fun same => other (Option.some.inj same).symm
      by_cases below : forest.Below previous id
      · have leaf := isDeclaration_of_isTypeReference (layered.below coherent.linked typed below)
        have outline := layered.sameOutline_remove coherent.linked typed
        rw [property?_of_leaf leaf, property?_of_leaf ((outline.isDeclaration id).trans leaf)]
      · simp [property?_remove_apart below, former]

-----------------------------------------------------------------------------------------
-- Writing a type changes what one property carries
-----------------------------------------------------------------------------------------

/-- The property's annotation spells the text; without a text its slot is empty. -/
def Carries (forest : Forest) (id : NodeId) : Option String → Prop
  | none => ∃ data, forest.property? (some id) = some data ∧ data.typeSlot = none
  | some text =>
    ∃ data type expr,
      forest.property? (some id) = some data
      ∧ data.typeSlot = some type
      ∧ forest.Spells expr type
      ∧ expr.spelling = text

variable {text : Option String}

theorem Carries.exists_property (carries : forest.Carries id text)
    : ∃ data, forest.property? (some id) = some data := by
  cases text with
  | none =>
      obtain ⟨data, found, _⟩ := carries
      exact ⟨data, found⟩
  | some text =>
      obtain ⟨data, _, _, found, _⟩ := carries
      exact ⟨data, found⟩

/-- The query for the written type returns what the property carries. -/
theorem Carries.propertyTypeText? (carries : forest.Carries id text) (coherent : forest.Coherent)
    : forest.propertyTypeText? (some id) = text := by
  cases text with
  | none =>
      obtain ⟨data, found, empty⟩ := carries
      simp [Forest.propertyTypeText?, found, empty, Forest.typeText?, Forest.typeTextWithin,
        typeReference?]
  | some text =>
      obtain ⟨data, type, expr, found, filled, spells, rfl⟩ := carries
      simp [Forest.propertyTypeText?, found, filled, spells.typeText? coherent]

/-- What a property carries stays when the property and the tree in its slot do. -/
theorem Carries.keep (carries : before.Carries id text)
    (same : after.property? (some id) = before.property? (some id))
    (names : before.interner.Extends after.interner)
    (kept
      : ∀ data type,
          before.property? (some id) = some data
          → data.typeSlot = some type
          → KeptBelow before after type)
    : after.Carries id text := by
  cases text with
  | none =>
      obtain ⟨data, found, empty⟩ := carries
      exact ⟨data, same.trans found, empty⟩
  | some text =>
      obtain ⟨data, type, expr, found, filled, spells, spelling⟩ := carries
      exact ⟨data, type, expr, same.trans found, filled,
        spells.keep names (kept data type found filled), spelling⟩

/-- What writing a type for a property gives: the property carries the spelling, and everything
else is as before.
-/
structure Annotates (before after : Forest) (property : NodeId) (expr : TypeExpr) : Prop where
  coherent : after.Coherent
  layered : after.Layered
  outline : SameOutline before after
  carries : after.Carries property (some expr.spelling)
  property?_other
    : ∀ id ≠ property, after.property? (some id) = before.property? (some id)
  carries_other : ∀ id ≠ property, ∀ text, before.Carries id text → after.Carries id text

/-- Adding an expression and attaching it writes it as the type of the property. -/
theorem Coherent.annotates (coherent : forest.Coherent) (layered : forest.Layered)
    {data : PropertyData} (found : forest.property? (some property) = some data)
    (expr : TypeExpr)
    : ∃ after,
        (forest.addType expr).2.attachType (some property) (some (forest.addType expr).1)
          = (.attached, after)
        ∧ Annotates forest after property expr := by
  obtain ⟨added, spells⟩ := addType_added coherent expr
  have grown := added.grown
  have grownLayered := grown.layered coherent.linked layered
  have grownProperty {id : NodeId} (known : id < forest.size)
      : (forest.addType expr).2.property? (some id) = forest.property? (some id) :=
    property?_congr (grown.content? known)
  have attaches := coherent.attaches_addType found expr
  have outline := attaches.sameOutline added.coherent grownLayered
  refine ⟨_, attaches.attachType, ?_⟩
  exact {
    coherent := (attaches.vacant added.coherent).fillSlot
    layered := (attaches.vacant added.coherent).layered
      (grownLayered.remove added.coherent.linked _)
    outline := grown.sameOutline.trans outline
    carries := by
      refine ⟨_, _, expr, attaches.property?_filled added.coherent grownLayered, rfl, ?_, rfl⟩
      exact spells.keep outline.names
        (attaches.keptBelow added.coherent grownLayered attaches.typeRoot attaches.other)
    property?_other := by
      intro id other
      rw [attaches.property?_other added.coherent grownLayered other]
      by_cases known : id < forest.size
      · exact grownProperty known
      · have leaf := isDeclaration_of_missing (Nat.not_lt.mp known)
        rw [property?_of_leaf leaf,
          property?_of_leaf ((grown.sameOutline.isDeclaration id).trans leaf)]
    carries_other := by
      intro id other text carries
      obtain ⟨otherData, otherFound⟩ := carries.exists_property
      have known := property?_lt_size otherFound
      have kept : (forest.addType expr).2.Carries id text := by
        refine carries.keep (grownProperty known) grown.names fun data type found filled => ?_
        exact grown.keptBelow coherent.linked (parentOf_lt_size (coherent.slot found filled).1)
      refine kept.keep (attaches.property?_other added.coherent grownLayered other) outline.names
        fun slotData slot slotFound filled => ?_
      have root := added.coherent.slot_typeRoot slotFound filled
      refine attaches.keptBelow added.coherent grownLayered root fun shared => other ?_
      have link := (added.coherent.slot attaches.property shared).1
      rw [(added.coherent.slot slotFound filled).1] at link
      exact Option.some.inj link
  }

end PropertyLint.Forest
