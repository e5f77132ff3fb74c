import PropertyLint.Proofs.Forest.TypeGrowth

/-! Attaching a type reference fills exactly one slot.
The previous type is removed first and the new one moved in afterwards. Nothing is assumed on the
place of the property: even one that goes away together with its previous type, as it stands below
it, leaves a forest that satisfies the invariant.
-/

namespace PropertyLint.Forest

variable {forest : Forest} {id property type : NodeId} {data : PropertyData}

/-- The type reference is free for the property and not in its slot yet. -/
structure Attaches (forest : Forest) (property type : NodeId) (data : PropertyData) : Prop where
  property : forest.property? (some property) = some data
  typed : forest.isTypeReference type
  free : forest.parentOf (some type) = none
  other : data.typeSlot ≠ some type

/-- The offset behind the name of a property. -/
def nameEnd (forest : Forest) (property : NodeId) : Nat :=
  ((forest.property? (some property)).map (·.nameSpan.stop)).getD 0

/-- Moves a type reference into the slot of a property, behind the name. -/
def fillSlot (forest : Forest) (property type : NodeId) : Forest :=
  let moved := forest.reparent type (some property)
  let placed := moved.update (some type) fun node =>
    { node with span := .point (forest.nameEnd property) }
  placed.update (some property) (·.withTypeSlot (some type))

/-- An attempt either changes nothing or empties the slot and fills it again. -/
theorem Coherent.attachType_cases (coherent : forest.Coherent) (property typeRef : NodeRef)
    : ((forest.attachType property typeRef).1 ≠ .attached
        ∧ (forest.attachType property typeRef).2 = forest)
      ∨ ∃ target type data,
          property = some target
          ∧ typeRef = some type
          ∧ forest.Attaches target type data
          ∧ forest.attachType property typeRef
            = (.attached, (forest.remove data.typeSlot).fillSlot target type) := by
  unfold attachType
  split
  · rename_i type typeData data found typed
    cases property with
    | none => cases found
    | some target =>
        dsimp only
        split
        · exact Or.inl ⟨by simp, rfl⟩
        · rename_i owner
          split
          · exact Or.inl ⟨by simp, rfl⟩
          · rename_i other
            have typeFound := isTypeReference_iff.mpr ⟨_, typeReference?_eq_some_iff.mp typed⟩
            have free : forest.parentOf (some type) = none := by
              by_cases rootless : forest.parentOf (some type) = none
              · exact rootless
              · have link : forest.parentOf (some type) = some target :=
                  Classical.byContradiction fun apart => owner ⟨rootless, apart⟩
                exact absurd (coherent.slot_of_parent found link typeFound) other
            exact Or.inr ⟨target, type, data, rfl, rfl, ⟨found, typeFound, free, other⟩, rfl⟩
  · exact Or.inl ⟨by simp, rfl⟩

/-- A type reference that is free for the property takes its slot. -/
theorem Attaches.attachType (attaches : forest.Attaches property type data)
    : forest.attachType (some property) (some type)
      = (.attached, (forest.remove data.typeSlot).fillSlot property type) := by
  obtain ⟨typeData, content⟩ := isTypeReference_iff.mp attaches.typed
  have typed := typeReference?_eq_some_iff.mpr content
  simp [Forest.attachType, typed, attaches.property, attaches.free, attaches.other, fillSlot,
    nameEnd]

-----------------------------------------------------------------------------------------
-- Removing the previous type empties the slot
-----------------------------------------------------------------------------------------

/-- A slot that can be filled: the property, if it is one still, has no type. -/
structure Vacant (forest : Forest) (property type : NodeId) : Prop where
  coherent : forest.Coherent
  known : property < forest.size
  typed : forest.isTypeReference type
  free : forest.parentOf (some type) = none
  untyped : ∀ data, forest.property? (some property) = some data → data.typeSlot = none
  noType : forest.isTypeReference property = false

/-- The free type reference is not below the type in the slot. -/
theorem Attaches.apart (attaches : forest.Attaches property type data)
    (coherent : forest.Coherent) {previous : NodeId} (filled : data.typeSlot = some previous)
    : ¬ forest.Below previous type := by
  intro below
  have proper : type ≠ previous := fun same => attaches.other (same ▸ filled)
  obtain ⟨parent, link, _⟩ := coherent.linked.below_parent below proper
  rw [attaches.free] at link
  cases link

theorem Attaches.property_noType (attaches : forest.Attaches property type data)
    : forest.isTypeReference property = false :=
  isTypeReference_of_property attaches.property

/-- Removing the previous type empties the slot and spares the new type. -/
theorem Attaches.vacant (attaches : forest.Attaches property type data)
    (coherent : forest.Coherent)
    : (forest.remove data.typeSlot).Vacant property type := by
  have known := property?_lt_size attaches.property
  cases slot : data.typeSlot with
  | none =>
      exact {
        coherent := coherent
        known := known
        typed := attaches.typed
        free := attaches.free
        untyped := fun other found => by
          rw [remove_none, attaches.property] at found
          exact Option.some.inj found ▸ slot
        noType := attaches.property_noType
      }
  | some previous =>
      have apart := attaches.apart coherent slot
      obtain ⟨link, typed⟩ := coherent.slot attaches.property slot
      have found := parentOf_lt_size link
      exact {
        coherent := coherent.remove (some previous)
        known := by simpa using known
        typed := (isTypeReference_remove found (isTypeReference_lt_size attaches.typed)).mpr
          ⟨apart, attaches.typed⟩
        free := (parentOf_remove_apart apart).trans attaches.free
        untyped := by
          intro left leftFound
          by_cases below : forest.Below previous property
          · have erased := (queries_remove_below found below known).2.2
            rw [property?_eq_some_iff, erased] at leftFound
            cases leftFound
          · rw [property?_remove_apart below, attaches.property, Option.map_some, if_pos link]
              at leftFound
            obtain rfl := Option.some.inj leftFound
            simp [released, slot]
        noType := by
          have kept := isTypeReference_remove found known
          rw [attaches.property_noType] at kept
          simpa using kept
      }

-----------------------------------------------------------------------------------------
-- An empty slot is filled together with the child list
-----------------------------------------------------------------------------------------

@[simp] theorem interner_fillSlot
    : (forest.fillSlot property type).interner = forest.interner := by
  simp [fillSlot]

@[simp] theorem size_fillSlot : (forest.fillSlot property type).size = forest.size := by
  simp [fillSlot]

/-- Filling a slot changes no content but that of the property. -/
theorem content?_fillSlot (other : id ≠ property)
    : (forest.fillSlot property type).content? (some id) = forest.content? (some id) := by
  have apart : some property ≠ some id := fun same => other (Option.some.inj same).symm
  rw [fillSlot, content?_update_other apart, content?_update_of_data, content?_reparent]
  exact fun _ => rfl

/-- The property is the same but for its slot. -/
theorem content?_fillSlot_property
    : (forest.fillSlot property type).content? (some property)
      = (forest.content? (some property)).map fun
        | .property data => .property { data with typeSlot := some type }
        | content => content := by
  have filled (before : Forest)
      : (before.update (some property) (·.withTypeSlot (some type))).content? (some property)
        = (before.content? (some property)).map fun
          | .property data => .property { data with typeSlot := some type }
          | content => content := by
    simp only [content?, node?_some, nodes_update, Option.map_map]
    congr 1
    funext node
    cases content : node.data <;> simp [Node.withTypeSlot, content]
  rw [fillSlot, filled, content?_update_of_data, content?_reparent]
  exact fun _ => rfl

theorem property?_fillSlot
    : (forest.fillSlot property type).property? (some property)
      = (forest.property? (some property)).map ({ · with typeSlot := some type }) := by
  ext data
  rw [property?_eq_some_iff, content?_fillSlot_property]
  unfold property? content?
  cases (forest.node? (some property)).map Node.data with
  | none => simp
  | some content => cases content <;> simp

/-- No type reference changes its content. -/
theorem typeReference?_fillSlot
    : (forest.fillSlot property type).typeReference? (some id)
      = forest.typeReference? (some id) := by
  ext data
  rw [typeReference?_eq_some_iff, typeReference?_eq_some_iff]
  by_cases same : id = property
  · subst same
    rw [content?_fillSlot_property]
    cases forest.content? (some id) with
    | none => simp
    | some content => cases content <;> simp
  · rw [content?_fillSlot same]

/-- What is seen of contents without their slots stays the same. -/
theorem content?_map_fillSlot {β : Type} (view : NodeData → β)
    (blind : ∀ data slot, view (.property { data with typeSlot := slot }) = view (.property data))
    : ((forest.fillSlot property type).content? (some id)).map view
      = (forest.content? (some id)).map view := by
  by_cases same : id = property
  · subst same
    rw [content?_fillSlot_property, Option.map_map]
    congr 1
    funext content
    cases content <;> simp [blind]
  · rw [content?_fillSlot same]

theorem kind?_fillSlot
    : (forest.fillSlot property type).kind? (some id) = forest.kind? (some id) := by
  rw [kind?_eq, kind?_eq]
  exact content?_map_fillSlot NodeData.kind fun _ _ => rfl

theorem isTypeReference_fillSlot
    : (forest.fillSlot property type).isTypeReference = forest.isTypeReference :=
  funext fun _ => by simp only [isTypeReference, kind?_fillSlot]

section Fill

variable (vacant : forest.Vacant property type)

include vacant

theorem Vacant.type_lt_size : type < forest.size :=
  isTypeReference_lt_size vacant.typed

theorem Vacant.ne : type ≠ property := by
  intro equal
  subst equal
  exact absurd vacant.typed (by simp [vacant.noType])

theorem Vacant.unlisted (parent : NodeId) : type ∉ forest.childrenOf (some parent) := by
  rw [vacant.coherent.linked.link, vacant.free]
  simp

/-- The type reference gets a parent and a place, the property a child and a slot. -/
theorem Vacant.nodes_fillSlot
    : (forest.fillSlot property type).nodes[id]?
      = (forest.nodes[id]?).map fun node =>
          if id = type then
            { node with parent := some property, span := .point (forest.nameEnd property) }
          else if id = property then
            { node with children := node.children ++ [type] }.withTypeSlot (some type)
          else node := by
  have ne := vacant.ne
  have moved : (forest.reparent type (some property)).nodes[id]? = _ :=
    nodes_reparent vacant.type_lt_size vacant.free (vacant.unlisted property) ne
  simp only [fillSlot, nodes_update, moved, Option.map_map]
  congr 1
  funext node
  by_cases first : id = type
  · simp [first, ne, Ne.symm ne]
  · by_cases second : id = property
    · simp [second, ne, Ne.symm ne]
    · simp [first, second, Ne.symm first, Ne.symm second]

theorem Vacant.parentOf_fillSlot
    : (forest.fillSlot property type).parentOf (some id)
      = if id = type then some property else forest.parentOf (some id) := by
  unfold parentOf
  simp only [node?_some, vacant.nodes_fillSlot]
  by_cases first : id = type
  · obtain ⟨node, present⟩ := nodes_isSome_iff.mpr vacant.type_lt_size
    simp [first, present]
  · cases forest.nodes[id]? with
    | none => simp [first]
    | some node =>
        by_cases second : id = property
        · cases content : node.data <;> simp [second, Ne.symm vacant.ne, Node.withTypeSlot, content]
        · simp [first, second]

theorem Vacant.childrenOf_fillSlot
    : (forest.fillSlot property type).childrenOf (some id)
      = if id = property then forest.childrenOf (some id) ++ [type]
        else forest.childrenOf (some id) := by
  unfold childrenOf
  simp only [node?_some, vacant.nodes_fillSlot]
  by_cases second : id = property
  · obtain ⟨node, present⟩ := nodes_isSome_iff.mpr vacant.known
    cases content : node.data <;>
      simp [second, present, Ne.symm vacant.ne, Node.withTypeSlot, content]
  · cases forest.nodes[id]? with
    | none => simp [second]
    | some node => by_cases first : id = type <;> simp [first, second, vacant.ne]

/-- The new link enters both directions, and the slot agrees with the new child. -/
theorem Vacant.linked : (forest.fillSlot property type).Linked where
  link parent child := by
    rw [vacant.childrenOf_fillSlot, vacant.parentOf_fillSlot]
    have unlisted := vacant.unlisted parent
    have link := vacant.coherent.linked.link parent child
    by_cases first : child = type <;> by_cases second : parent = property
    · simp [first, second]
    · simp [first, second, unlisted, Ne.symm second]
    · simp [first, second, second ▸ link]
    · simp [first, second, link]
  unique parent := by
    have unique := vacant.coherent.linked.unique parent
    rw [vacant.childrenOf_fillSlot]
    split
    · refine List.nodup_append.mpr ⟨unique, by simp, ?_⟩
      intro child listed _ last equal
      subst equal
      exact vacant.unlisted parent (List.mem_singleton.mp last ▸ listed)
    · exact unique
  detached id removed := by
    have kind : (forest.fillSlot property type).kind? (some id) = _ := kind?_fillSlot
    rw [kind?_eq, removed, kind?_eq] at kind
    obtain ⟨content, found, same⟩ := Option.map_eq_some_iff.mp kind.symm
    have gone : forest.content? (some id) = some .removed := by
      cases content <;> first | exact found | cases same
    have other : id ≠ type := by
      intro equal
      subst equal
      obtain ⟨_, typed⟩ := isTypeReference_iff.mp vacant.typed
      rw [gone] at typed
      cases typed
    rw [vacant.parentOf_fillSlot, if_neg other]
    exact vacant.coherent.linked.detached id gone

theorem Vacant.slotted : (forest.fillSlot property type).Slotted := by
  intro id data found
  rw [annotations, isTypeReference_fillSlot, vacant.childrenOf_fillSlot]
  split
  · rename_i same
    subst id
    rw [property?_fillSlot] at found
    obtain ⟨before, earlier, rfl⟩ := Option.map_eq_some_iff.mp found
    have empty := vacant.coherent.slotted property before earlier
    rw [vacant.untyped before earlier] at empty
    rw [List.filter_append]
    simpa [annotations, vacant.typed] using empty
  · rename_i other
    rw [property?_eq_some_iff, content?_fillSlot other, ← property?_eq_some_iff] at found
    exact vacant.coherent.slotted id data found

theorem Vacant.ordered : (forest.fillSlot property type).Ordered where
  declaration link other := by
    rw [vacant.parentOf_fillSlot] at link
    rw [isTypeReference_fillSlot] at other
    split at link
    · rename_i same
      rw [same, vacant.typed] at other
      cases other
    · exact vacant.coherent.ordered.declaration link other
  argument link above below := by
    rw [vacant.parentOf_fillSlot] at link
    rw [isTypeReference_fillSlot] at above below
    split at link
    · rw [← Option.some.inj link, vacant.noType] at above
      cases above
    · exact vacant.coherent.ordered.argument link above below

theorem Vacant.named : (forest.fillSlot property type).Named where
  consistent := by simpa using vacant.coherent.named.consistent
  known := by
    intro id data content
    have atoms : ((forest.fillSlot property type).content? (some id)).map NodeData.atoms = _ :=
      content?_map_fillSlot NodeData.atoms fun _ _ => rfl
    rw [content, Option.map_some] at atoms
    obtain ⟨before, earlier, same⟩ := Option.map_eq_some_iff.mp atoms.symm
    rw [interner_fillSlot, ← same]
    exact vacant.coherent.named.known earlier

/-- Filling an empty slot keeps the invariant. -/
theorem Vacant.fillSlot : (forest.fillSlot property type).Coherent :=
  ⟨vacant.linked, vacant.slotted, vacant.ordered, vacant.named⟩

/-- Filling a slot keeps the layers: the new link leads down to a type reference. -/
theorem Vacant.layered (layered : forest.Layered)
    : (forest.fillSlot property type).Layered := by
  intro parent child link typed
  rw [vacant.parentOf_fillSlot] at link
  rw [isTypeReference_fillSlot] at typed ⊢
  split at link
  · rename_i same
    exact same ▸ vacant.typed
  · exact layered parent child link typed

end Fill

-----------------------------------------------------------------------------------------
-- Every attempt keeps the invariant
-----------------------------------------------------------------------------------------

/-- No attempt changes the names. -/
@[simp] theorem interner_attachType (property typeRef : NodeRef)
    : (forest.attachType property typeRef).2.interner = forest.interner := by
  unfold attachType
  split
  · dsimp only
    split
    · rfl
    · split <;> simp
  · rfl

/-- Every attempt keeps the invariant, whatever it returns. -/
theorem Coherent.attachType (coherent : forest.Coherent) (property typeRef : NodeRef)
    : (forest.attachType property typeRef).2.Coherent := by
  rcases coherent.attachType_cases property typeRef with
    ⟨_, same⟩ | ⟨target, type, data, rfl, rfl, attaches, done⟩
  · rw [same]
    exact coherent
  · rw [done]
    exact (attaches.vacant coherent).fillSlot

theorem Layered.attachType (layered : forest.Layered) (coherent : forest.Coherent)
    (property typeRef : NodeRef)
    : (forest.attachType property typeRef).2.Layered := by
  rcases coherent.attachType_cases property typeRef with
    ⟨_, same⟩ | ⟨target, type, data, rfl, rfl, attaches, done⟩
  · rw [same]
    exact layered
  · rw [done]
    exact (attaches.vacant coherent).layered (layered.remove coherent.linked _)

end PropertyLint.Forest
