import PropertyLint.Proofs.Forest.Removal
import PropertyLint.Proofs.Forest.TypeArguments
import PropertyLint.Proofs.Forest.WrittenTypes

/-! Attaching a type reference is all or nothing.
An attempt that is refused leaves the forest as it was. One that is not replaces the type of a
single property: the previous type is erased with everything below it, the new one takes its place,
and all other nodes stay the same.
-/

namespace PropertyLint.Forest

variable {forest : Forest} {id property type root : NodeId} {data : PropertyData}

/-- An attempt succeeds exactly for a property and a type reference that is detached or below the
property already.
-/
theorem attachType_isDone_iff (property typeRef : NodeRef)
    : (forest.attachType property typeRef).1.isDone
      ↔ (∃ data, forest.property? property = some data)
        ∧ (∃ data, forest.typeReference? typeRef = some data)
        ∧ (forest.parentOf typeRef = none ∨ forest.parentOf typeRef = property) := by
  cases typeRef with
  | none => simp [attachType, typeReference?, Attachment.isDone]
  | some type =>
      cases typed : forest.typeReference? (some type) with
      | none => simp [attachType, typed, Attachment.isDone]
      | some typeData =>
          cases found : forest.property? property with
          | none => simp [attachType, found, Attachment.isDone]
          | some data =>
              simp only [attachType, typed, found]
              split
              · rename_i owned
                simp [Attachment.isDone, owned]
              · rename_i free
                have allowed : forest.parentOf (some type) = none
                    ∨ forest.parentOf (some type) = property := by
                  tauto
                split <;> simp [Attachment.isDone, allowed]

theorem attachType_refused {property typeRef : NodeRef}
    (refused : (forest.attachType property typeRef).1.isDone = false)
    : (forest.attachType property typeRef).2 = forest := by
  revert refused
  unfold attachType
  split
  · dsimp only
    split
    · exact fun _ => rfl
    · split <;> exact fun done => nomatch done
  · exact fun _ => rfl

/-- A type reference that may be attached to a property is in its slot already, where nothing
changes, or free for it.
-/
theorem Coherent.attachType_done (coherent : forest.Coherent)
    (found : forest.property? (some property) = some data) (typed : forest.isTypeReference type)
    (owner : forest.parentOf (some type) = none ∨ forest.parentOf (some type) = some property)
    : data.typeSlot = some type
        ∧ (forest.attachType (some property) (some type)).2 = forest
      ∨ forest.Attaches property type data := by
  by_cases filled : data.typeSlot = some type
  · obtain ⟨typeData, content⟩ := isTypeReference_iff.mp typed
    refine Or.inl ⟨filled, ?_⟩
    simp [Forest.attachType, typeReference?_eq_some_iff.mpr content, found, filled,
      (coherent.slot found filled).1]
  · have free : forest.parentOf (some type) = none :=
      owner.resolve_right fun link => filled (coherent.slot_of_parent found link typed)
    exact Or.inr ⟨found, typed, free, filled⟩

-----------------------------------------------------------------------------------------
-- Removing a whole type leaves the other types as they are printed
-----------------------------------------------------------------------------------------

theorem typeReference?_of_removed (removed : forest.kind? (some id) = some .removed)
    : forest.typeReference? (some id) = none := by
  rw [Option.eq_none_iff_forall_ne_some]
  intro data typed
  rw [kind?_eq, typeReference?_eq_some_iff.mp typed] at removed
  cases removed

/-- A type reference outside of the removed tree is printed as before. Its arguments are below it,
and so outside of that tree, or had been removed already.
-/
theorem Coherent.typeText?_remove (coherent : forest.Coherent) (owns : forest.OwnsArguments)
    (outermost : ∀ type, ¬ forest.IsArgument type root) (apart : ¬ forest.Below root id)
    : (forest.remove (some root)).typeText? (some id) = forest.typeText? (some id) := by
  rw [typeText?_eq, typeText?_eq, typeExpr?, typeExpr?, size_remove]
  congr 1
  refine typeExprWithin_congr
    (fun id => ¬ forest.Below root id ∨ forest.kind? (some id) = some .removed) ?_ _ (Or.inl apart)
  rintro id (apart | removed)
  · refine ⟨typeReference?_remove_apart apart, fun data typed => ⟨by simp, ?_⟩⟩
    intro argument member
    have names : forest.IsArgument id argument := ⟨data, typed, member⟩
    refine (owns id argument names).imp_left fun holds below => ?_
    have other : argument ≠ root := by
      rintro rfl
      exact outermost id names
    obtain ⟨parent, link, reached⟩ := coherent.linked.below_parent below other
    rw [holds.link] at link
    exact apart (Option.some.inj link ▸ reached)
  · have missing := typeReference?_of_removed removed
    rw [typeReference?_of_removed (kind?_remove_removed removed), missing]
    exact ⟨rfl, by simp⟩

-----------------------------------------------------------------------------------------
-- What a replacement changes
-----------------------------------------------------------------------------------------

/-- The type of one property has been replaced. The property lists its new type last, the new type
stands behind the name, and the nodes of the previous type are erased; nothing else has changed.
-/
structure Replaces (before after : Forest) (property type : NodeId) (data : PropertyData)
    : Prop where
  owner
    : ∃ node,
        before.nodes[property]? = some node
        ∧ after.nodes[property]?
          = some
              { node with
                children := node.children.filter (fun child => data.typeSlot ≠ some child) ++ [type]
                data := .property { data with typeSlot := some type } }
  placed
    : ∃ node,
        before.nodes[type]? = some node
        ∧ after.nodes[type]?
          = some { node with parent := some property, span := .point data.nameSpan.stop }
  erased
    : ∀ previous,
        data.typeSlot = some previous
        → ∀ id,
            before.Above previous id
            → ∃ node,
                before.nodes[id]? = some node
                ∧ after.nodes[id]?
                  = some { node with parent := none, children := [], data := .removed }
  others
    : ∀ id,
        id ≠ property
        → id ≠ type
        → (∀ previous, data.typeSlot = some previous → ¬ before.Above previous id)
        → after.nodes[id]? = before.nodes[id]?
  texts
    : ∀ id,
        id ≠ property
        → after.propertyTypeText? (some id) = before.propertyTypeText? (some id)
  size : after.size = before.size
  interner : after.interner = before.interner

/-- The node of a property without its type. -/
def emptied (node : Node) (data : PropertyData) : Node :=
  { node with
    children := node.children.filter (fun child => data.typeSlot ≠ some child)
    data := .property { data with typeSlot := none } }

section Replace

variable (attaches : forest.Attaches property type data) (coherent : forest.Coherent)
  (layered : forest.Layered) (owns : forest.OwnsArguments)

include attaches coherent

/-- Where the previous type is not, only the property notices that its slot is emptied. -/
theorem Attaches.nodes_emptied
    (apart : ∀ previous, data.typeSlot = some previous → ¬ forest.Below previous id)
    : (forest.remove data.typeSlot).nodes[id]?
      = (forest.nodes[id]?).map fun node => if id = property then emptied node data else node := by
  cases found : forest.nodes[id]? with
  | none =>
      cases slot : data.typeSlot with
      | none => exact found
      | some previous => simp [nodes_remove_apart (apart previous slot), found]
  | some node =>
      cases slot : data.typeSlot with
      | none =>
          by_cases same : id = property
          · subst same
            have content := (content?_of_found found).symm.trans
              (property?_eq_some_iff.mp attaches.property)
            have unfilled : emptied node data = node := by
              cases node
              cases data
              simp_all [emptied]
            simp [found, unfilled]
          · simp [found, same]
      | some previous =>
          obtain ⟨link, _⟩ := coherent.slot attaches.property slot
          rw [nodes_remove_apart (apart previous slot), found, Option.map_some, Option.map_some,
            link]
          by_cases same : id = property
          · subst same
            have content := (content?_of_found found).symm.trans
              (property?_eq_some_iff.mp attaches.property)
            have former : node.data = .property data := Option.some.inj content
            simp [Node.release, emptied, former, slot, eq_comm]
          · simp [same, Ne.symm same]

include layered

/-- The property and the new type are outside of the previous type. -/
theorem Attaches.previous_apart {previous : NodeId} (filled : data.typeSlot = some previous)
    : ¬ forest.Below previous property ∧ ¬ forest.Below previous type := by
  have typed := (coherent.slot attaches.property filled).2
  exact ⟨layered.not_below coherent.linked typed attaches.property_noType,
    attaches.apart coherent filled⟩

/-- The end of the name stays where it is while the slot is emptied. -/
theorem Attaches.nameEnd_emptied
    : (forest.remove data.typeSlot).nameEnd property = data.nameSpan.stop := by
  have filled := attaches.property?_filled coherent layered
  rw [property?_fillSlot] at filled
  obtain ⟨left, found, same⟩ := Option.map_eq_some_iff.mp filled
  have spans := congrArg PropertyData.nameSpan same
  simp only at spans
  rw [nameEnd, found, Option.map_some, Option.getD_some, spans]

/-- The new type comes to stand behind the name. -/
theorem Attaches.placed
    : ∃ node,
        forest.nodes[type]? = some node
        ∧ ((forest.remove data.typeSlot).fillSlot property type).nodes[type]?
          = some { node with parent := some property, span := .point data.nameSpan.stop } := by
  have vacant := attaches.vacant coherent
  obtain ⟨node, found⟩ := nodes_isSome_iff.mpr (isTypeReference_lt_size attaches.typed)
  refine ⟨node, found, ?_⟩
  rw [vacant.nodes_fillSlot,
    attaches.nodes_emptied coherent
      fun previous filled => (attaches.previous_apart coherent layered filled).2,
    found, attaches.nameEnd_emptied coherent layered]
  simp [vacant.ne]

omit layered in
include owns in
/-- A type reference outside of the previous type is printed as before. -/
theorem Attaches.typeText?_replaced
    (apart : ∀ previous, data.typeSlot = some previous → ¬ forest.Below previous root)
    : ((forest.remove data.typeSlot).fillSlot property type).typeText? (some root)
      = forest.typeText? (some root) := by
  rw [typeText?_fillSlot]
  cases slot : data.typeSlot with
  | none => rfl
  | some previous =>
      exact coherent.typeText?_remove owns
        (coherent.slot_not_argument owns attaches.property slot) (apart previous slot)

include owns in
/-- The type in another property's slot is outside of the previous type. -/
theorem Attaches.propertyTypeText?_other (other : id ≠ property)
    : ((forest.remove data.typeSlot).fillSlot property type).propertyTypeText? (some id)
      = forest.propertyTypeText? (some id) := by
  unfold propertyTypeText?
  rw [attaches.property?_other coherent layered other]
  cases found : forest.property? (some id) with
  | none => simp only [Option.bind_none]
  | some otherData =>
      cases filled : otherData.typeSlot with
      | none => simp only [Option.bind_some, filled, typeText?_eq, typeExpr?_none]
      | some root =>
          simp only [Option.bind_some, filled]
          refine attaches.typeText?_replaced coherent owns fun previous slot => ?_
          have ne : root ≠ previous := by
            rintro rfl
            have link := (coherent.slot found filled).1
            rw [(coherent.slot attaches.property slot).1] at link
            exact other (Option.some.inj link).symm
          exact (coherent.slot_typeRoot found filled).apart
            (coherent.slot_typeRoot attaches.property slot) layered coherent.linked ne .refl

include owns in
/-- An attempt that succeeds replaces the type of the property and changes nothing else. -/
theorem Attaches.replaces
    : Replaces forest ((forest.remove data.typeSlot).fillSlot property type) property type
        data := by
  have vacant := attaches.vacant coherent
  have spared {previous : NodeId} (filled : data.typeSlot = some previous) :=
    attaches.previous_apart coherent layered filled
  have ne := vacant.ne
  exact {
    owner := by
      obtain ⟨node, found⟩ := nodes_isSome_iff.mpr (property?_lt_size attaches.property)
      refine ⟨node, found, ?_⟩
      rw [vacant.nodes_fillSlot,
        attaches.nodes_emptied coherent fun previous filled => (spared filled).1, found]
      simp [Ne.symm ne, emptied, Node.withTypeSlot]
    placed := attaches.placed coherent layered
    erased := by
      intro previous filled id above
      have below := coherent.linked.above_iff_below.mp above
      have found := parentOf_lt_size (coherent.slot attaches.property filled).1
      obtain ⟨node, present⟩ := nodes_isSome_iff.mpr (coherent.linked.below_lt_size found below)
      have notProperty : id ≠ property := by
        rintro rfl
        exact (spared filled).1 below
      have notType : id ≠ type := by
        rintro rfl
        exact (spared filled).2 below
      refine ⟨node, present, ?_⟩
      rw [vacant.nodes_fillSlot, filled, nodes_remove_below found below, present]
      simp [notProperty, notType, Node.erased]
    others := by
      intro id notProperty notType apart
      rw [vacant.nodes_fillSlot, attaches.nodes_emptied coherent fun previous filled below =>
        apart previous filled (coherent.linked.above_iff_below.mpr below)]
      cases forest.nodes[id]? <;> simp [notProperty, notType]
    texts := fun id other => attaches.propertyTypeText?_other coherent layered owns other
    size := by simp
    interner := by simp
  }

end Replace

/-- Attaching is all or nothing, and local. After every history in which no declaration is put below
a type reference, an attempt succeeds exactly for a property and a type reference that is detached
or in its slot. One that fails changes nothing. After one that succeeds the property carries the
type as it was printed before; if that type was in the slot, nothing has changed, and otherwise it
has replaced the previous one and nothing else has changed.
-/
theorem attaching_replaces_one_type {forest : Forest} (reachable : Reachable Declarable forest)
    (property typeRef : NodeRef)
    : let outcome := (forest.attachType property typeRef).1
      let after := (forest.attachType property typeRef).2
      (outcome.isDone
        ↔ (∃ data, forest.property? property = some data)
          ∧ (∃ data, forest.typeReference? typeRef = some data)
          ∧ (forest.parentOf typeRef = none ∨ forest.parentOf typeRef = property))
      ∧ (outcome.isDone = false → after = forest)
      ∧ (outcome.isDone
        → ∃ target type data,
            property = some target
            ∧ typeRef = some type
            ∧ forest.property? property = some data
            ∧ after.property? property = some { data with typeSlot := typeRef }
            ∧ after.parentOf typeRef = property
            ∧ after.propertyTypeText? property = forest.typeText? typeRef
            ∧ (data.typeSlot = typeRef → after = forest)
            ∧ (data.typeSlot ≠ typeRef → Replaces forest after target type data)) := by
  obtain ⟨coherent, layered⟩ := reachable_sound reachable
  obtain ⟨_, owns⟩ := reachable_owned reachable declarable_stable
  intro outcome after
  refine ⟨attachType_isDone_iff property typeRef, attachType_refused, fun done => ?_⟩
  obtain ⟨⟨data, found⟩, ⟨typeData, typed⟩, owner⟩ :=
    (attachType_isDone_iff property typeRef).mp done
  cases property with
  | none => cases found
  | some target =>
      cases typeRef with
      | none => cases typed
      | some type =>
          have typeFound := isTypeReference_iff.mpr ⟨_, typeReference?_eq_some_iff.mp typed⟩
          refine ⟨target, type, data, rfl, rfl, found, ?_⟩
          rcases coherent.attachType_done found typeFound owner with ⟨filled, same⟩ | attaches
          · have link := (coherent.slot found filled).1
            have unchanged : after = forest := same
            rw [unchanged, found, ← filled]
            exact ⟨rfl, filled ▸ link, by simp [propertyTypeText?, found], fun _ => rfl,
              fun other => absurd rfl other⟩
          · have replaced : after = (forest.remove data.typeSlot).fillSlot target type :=
              congrArg Prod.snd attaches.attachType
            have property := attaches.property?_filled coherent layered
            have printed
                : after.propertyTypeText? (some target) = forest.typeText? (some type) := by
              rw [replaced, propertyTypeText?, property, Option.bind_some]
              exact attaches.typeText?_replaced coherent owns fun previous filled =>
                attaches.apart coherent filled
            refine ⟨replaced ▸ property, ?_, printed, fun filled => absurd filled attaches.other,
              fun _ => replaced ▸ attaches.replaces coherent layered owns⟩
            rw [replaced, (attaches.vacant coherent).parentOf_fillSlot, if_pos rfl]

/-- The property of the sample forest with a third type that waits for it. -/
def relabelled : Forest :=
  (retyped.addType (.named ["Map"] [.star] false)).2

/-- The third type takes the place of the second one, which is erased. -/
theorem relabelled_third_type_replaces
    : let after := (relabelled.attachType (some 1) (some 5)).2
      Reachable Declarable relabelled
      ∧ (relabelled.attachType (some 1) (some 5)).1.isDone
      ∧ relabelled.propertyTypeText? (some 1) = some "Set?"
      ∧ after.propertyTypeText? (some 1) = some "Map<*>"
      ∧ Replaces relabelled after 1 5 ⟨1, {}, false, some 3⟩
      ∧ (relabelled.attachType (some 1) (some 4)).2 = relabelled := by
  have reachable : Reachable Declarable relabelled :=
    retyped_reachable.step (.addType (.named ["Map"] [.star] false)) declarable_none
  have done : (relabelled.attachType (some 1) (some 5)).1.isDone := by cbv
  have refused : (relabelled.attachType (some 1) (some 4)).1.isDone = false := by cbv
  have found : relabelled.property? (some 1) = some ⟨1, {}, false, some 3⟩ := by cbv
  have spelled : relabelled.typeText? (some 5) = some "Map<*>" := by cbv
  obtain ⟨_, _, succeeds⟩ := attaching_replaces_one_type reachable (some 1) (some 5)
  obtain ⟨_, keeps, _⟩ := attaching_replaces_one_type reachable (some 1) (some 4)
  obtain ⟨target, type, data, first, second, property, _, _, printed, _, replaces⟩ := succeeds done
  obtain rfl := Option.some.inj first
  obtain rfl := Option.some.inj second
  obtain rfl := Option.some.inj (property.symm.trans found)
  exact ⟨reachable, done, by cbv, printed.trans spelled, replaces (by simp), keeps refused⟩

end PropertyLint.Forest
