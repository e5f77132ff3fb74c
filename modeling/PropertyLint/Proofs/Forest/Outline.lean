import PropertyLint.Proofs.Forest.Walks

/-! The outline of a forest: its declarations with their places, apart from written types.
Edits of types leave the outline alone, and every query about declarations depends on it only.
-/

namespace PropertyLint

/-- A property declaration with its slot left out. -/
def PropertyData.untyped (data : PropertyData) : PropertyData :=
  { data with typeSlot := none }

/-- A content with the slot of a property left out. -/
def NodeData.untyped : NodeData → NodeData
  | .property data => .property data.untyped
  | data => data

/-- What a node is apart from its children and its slot. -/
def Node.outline (node : Node) : Node :=
  { node with children := [], data := node.data.untyped }

@[simp] theorem NodeData.kind_untyped (data : NodeData) : data.untyped.kind = data.kind := by
  cases data <;> rfl

@[simp] theorem Node.outline_release (node : Node) (id : NodeId)
    : (node.release id).outline = node.outline := by
  cases content : node.data with
  | property data =>
      by_cases filled : data.typeSlot = some id <;>
        simp [release, outline, content, NodeData.untyped, PropertyData.untyped, filled]
  | _ => simp [release, outline, content]

@[simp] theorem Node.outline_withTypeSlot (node : Node) (ref : NodeRef)
    : (node.withTypeSlot ref).outline = node.outline := by
  cases content : node.data <;>
    simp [withTypeSlot, outline, content, NodeData.untyped, PropertyData.untyped]

namespace Forest

variable {forest before middle after : Forest} {id : NodeId} {ref : NodeRef}

/-- A node other than a type reference stands at the index: a declaration, or what removal has
left of a node.
-/
def Standing (forest : Forest) (id : NodeId) : Prop :=
  id < forest.size ∧ forest.isTypeReference id = false

/-- The same node stands at the index in both forests, apart from its children and its slot. -/
def SameAt (before after : Forest) (id : NodeId) : Prop :=
  (after.nodes[id]?).map Node.outline = (before.nodes[id]?).map Node.outline

/-- Both forests have the same declarations in the same places. -/
structure SameOutline (before after : Forest) : Prop where
  standing
    : ∀ id,
        before.Standing id
        → (after.nodes[id]?).map Node.outline = (before.nodes[id]?).map Node.outline
  leaf : ∀ id, ¬ before.Standing id → after.isDeclaration id = false
  children
    : ∀ id,
        before.isDeclaration id
        → (after.childrenOf (some id)).filter before.isDeclaration
          = (before.childrenOf (some id)).filter before.isDeclaration
  names : before.interner.Extends after.interner

theorem standing_of_isDeclaration (declared : forest.isDeclaration id) : forest.Standing id := by
  unfold isDeclaration at declared
  cases kind : forest.kind? (some id) with
  | none => simp [kind] at declared
  | some found =>
      obtain ⟨node, present, _⟩ := Option.map_eq_some_iff.mp kind
      refine ⟨lt_size_of_found present, ?_⟩
      cases found <;> simp_all [isTypeReference]

theorem isDeclaration_of_not_standing (fallen : ¬ forest.Standing id)
    : forest.isDeclaration id = false := by
  rw [Bool.eq_false_iff]
  exact fun declared => fallen (standing_of_isDeclaration declared)

-----------------------------------------------------------------------------------------
-- A node that is the same answers the same
-----------------------------------------------------------------------------------------

theorem SameAt.trans (first : SameAt before middle id) (second : SameAt middle after id)
    : SameAt before after id :=
  Eq.trans second first

/-- What both nodes agree on. -/
theorem SameAt.outline (same : SameAt before after id) {old : Node}
    (found : before.nodes[id]? = some old)
    : ∃ new, after.nodes[id]? = some new
      ∧ new.parent = old.parent ∧ new.span = old.span ∧ new.data.untyped = old.data.untyped := by
  rw [SameAt, found, Option.map_some] at same
  obtain ⟨new, newFound, equal⟩ := Option.map_eq_some_iff.mp same
  simp only [Node.outline, Node.mk.injEq, true_and] at equal
  exact ⟨new, newFound, equal⟩

/-- Where no node stands in one forest, none stands in the other. -/
theorem SameAt.missing (same : SameAt before after id) (missing : before.nodes[id]? = none)
    : after.nodes[id]? = none := by
  rwa [SameAt, missing, Option.map_none, Option.map_eq_none_iff] at same

theorem SameAt.kind? (same : SameAt before after id)
    : after.kind? (some id) = before.kind? (some id) := by
  cases found : before.nodes[id]? with
  | none => simp [Forest.kind?, found, same.missing found]
  | some old =>
      obtain ⟨new, newFound, _, _, content⟩ := same.outline found
      have kinds := congrArg NodeData.kind content
      simpa [Forest.kind?, found, newFound, Node.kind] using kinds

theorem SameAt.parentOf (same : SameAt before after id)
    : after.parentOf (some id) = before.parentOf (some id) := by
  cases found : before.nodes[id]? with
  | none => simp [Forest.parentOf, found, same.missing found]
  | some old =>
      obtain ⟨new, newFound, parents, _⟩ := same.outline found
      simpa [Forest.parentOf, found, newFound] using parents

/-- A property is the same property up to its slot. -/
theorem SameAt.property? (same : SameAt before after id)
    : (after.property? (some id)).map PropertyData.untyped
      = (before.property? (some id)).map PropertyData.untyped := by
  cases found : before.nodes[id]? with
  | none => simp [Forest.property?, found, same.missing found]
  | some old =>
      obtain ⟨new, newFound, _, _, content⟩ := same.outline found
      cases oldData : old.data <;> cases newData : new.data <;>
        simp_all [Forest.property?, NodeData.untyped]

/-- A property keeps its scope, which its parent decides. -/
theorem SameAt.scope? (same : SameAt before after id)
    (above : ∀ parent, before.parentOf (some id) = some parent → SameAt before after parent)
    : after.scope? (some id) = before.scope? (some id) := by
  have kinds : after.kind? (before.parentOf (some id))
      = before.kind? (before.parentOf (some id)) := by
    cases link : before.parentOf (some id) with
    | none => rfl
    | some parent => exact (above parent link).kind?
  have outlines := same.property?
  cases property : before.property? (some id) with
  | none =>
      rw [property] at outlines
      have missing := Option.map_eq_none_iff.mp outlines
      simp [Forest.scope?, property, missing]
  | some data =>
      rw [property] at outlines
      obtain ⟨newData, newProperty, _⟩ := Option.map_eq_some_iff.mp outlines
      simp only [Forest.scope?, property, newProperty, same.parentOf, kinds]
      cases before.kind? (before.parentOf (some id)) with
      | none => rfl
      | some kind => cases kind <;> rfl

/-- A property keeps its name, as the names of both forests agree. -/
theorem SameAt.declarationName? (same : SameAt before after id) (named : before.Named)
    (names : before.interner.Extends after.interner) {old : PropertyData}
    (property : before.property? (some id) = some old)
    : after.declarationName? (some id) = before.declarationName? (some id) := by
  have outlines := same.property?
  rw [property] at outlines
  obtain ⟨new, newProperty, equal⟩ := Option.map_eq_some_iff.mp outlines
  have name : new.name = old.name := by
    simpa [PropertyData.untyped] using congrArg PropertyData.name equal
  have known := named.known (property?_eq_some_iff.mp property) old.name (by simp [NodeData.atoms])
  rw [declarationName?_of_property property, declarationName?_of_property newProperty, name,
    names.resolve known]

/-- A node other than a type reference stays one. -/
theorem SameAt.standing (same : SameAt before after id) (standing : before.Standing id)
    : after.Standing id := by
  obtain ⟨old, found⟩ := nodes_isSome_iff.mpr standing.1
  obtain ⟨new, newFound, _⟩ := same.outline found
  have other := standing.2
  exact ⟨lt_size_of_found newFound, by rwa [isTypeReference, same.kind?]⟩

-----------------------------------------------------------------------------------------
-- Forests with the same outline
-----------------------------------------------------------------------------------------

/-- What an outline says of a node. -/
theorem SameOutline.outline (same : SameOutline before after) (standing : before.Standing id)
    : ∃ old new, before.nodes[id]? = some old ∧ after.nodes[id]? = some new
      ∧ new.parent = old.parent ∧ new.span = old.span
      ∧ new.data.untyped = old.data.untyped := by
  obtain ⟨old, found⟩ := nodes_isSome_iff.mpr standing.1
  obtain ⟨new, newFound, equal⟩ := SameAt.outline (same.standing id standing) found
  exact ⟨old, new, found, newFound, equal⟩

theorem SameOutline.kind? (same : SameOutline before after) (standing : before.Standing id)
    : after.kind? (some id) = before.kind? (some id) :=
  SameAt.kind? (same.standing id standing)

theorem SameOutline.isDeclaration (same : SameOutline before after) (id : NodeId)
    : after.isDeclaration id = before.isDeclaration id := by
  by_cases standing : before.Standing id
  · simp only [Forest.isDeclaration, same.kind? standing]
  · rw [same.leaf id standing, isDeclaration_of_not_standing standing]

theorem SameOutline.refl (forest : Forest) : SameOutline forest forest where
  standing _ _ := rfl
  leaf _ fallen := isDeclaration_of_not_standing fallen
  children _ _ := rfl
  names := .refl _

theorem SameOutline.trans (first : SameOutline before middle) (second : SameOutline middle after)
    : SameOutline before after where
  standing id standing := by
    have kept : middle.Standing id := SameAt.standing (first.standing id standing) standing
    exact (second.standing id kept).trans (first.standing id standing)
  leaf id fallen := (second.isDeclaration id).trans (first.leaf id fallen)
  children id declared := by
    have declarations : middle.isDeclaration = before.isDeclaration :=
      funext first.isDeclaration
    have later := second.children id ((first.isDeclaration id).trans declared)
    rw [declarations] at later
    exact later.trans (first.children id declared)
  names := first.names.trans second.names

-----------------------------------------------------------------------------------------
-- Queries about declarations see the outline only
-----------------------------------------------------------------------------------------

/-- A property of one forest is a property of the other, up to its slot. -/
theorem SameOutline.property? (same : SameOutline before after) (ref : NodeRef)
    : (after.property? ref).map PropertyData.untyped
      = (before.property? ref).map PropertyData.untyped := by
  cases ref with
  | none => rfl
  | some id =>
      cases declared : before.isDeclaration id with
      | false =>
          rw [property?_of_leaf declared,
            property?_of_leaf ((same.isDeclaration id).trans declared)]
      | true => exact SameAt.property? (same.standing id (standing_of_isDeclaration declared))

/-- A property whose slot is empty in both forests is the same property in both. -/
theorem SameOutline.property?_eq (same : SameOutline before after) {old new : PropertyData}
    (property : before.property? ref = some old) (newProperty : after.property? ref = some new)
    (slots : new.typeSlot = old.typeSlot)
    : new = old := by
  have outlines := same.property? ref
  simp only [property, newProperty, Option.map_some, Option.some.injEq, PropertyData.untyped,
    PropertyData.mk.injEq] at outlines
  obtain ⟨names, spans, mutable, _⟩ := outlines
  cases old
  cases new
  simp_all

section Queries

variable (same : SameOutline before after) (coherent : before.Coherent) (layered : before.Layered)

include coherent layered in
/-- What stands below a parent as no type reference has a parent that is none either. -/
theorem Standing.parent {parent : NodeId} (standing : before.Standing id)
    (link : before.parentOf (some id) = some parent)
    : before.Standing parent := by
  refine ⟨coherent.linked.parent_lt_size link, Bool.eq_false_iff.mpr fun typed => ?_⟩
  have other := standing.2
  rw [layered parent id link typed] at other
  cases other

include same coherent layered

/-- A property keeps its scope, as its parent stands, too. -/
theorem SameOutline.scope? (ref : NodeRef) : after.scope? ref = before.scope? ref := by
  cases ref with
  | none => rfl
  | some id =>
      cases declared : before.isDeclaration id with
      | false =>
          have missing := property?_of_leaf declared
          have afterMissing := property?_of_leaf ((same.isDeclaration id).trans declared)
          simp [Forest.scope?, missing, afterMissing]
      | true =>
          have standing := standing_of_isDeclaration declared
          refine SameAt.scope? (same.standing id standing) fun parent link => ?_
          exact same.standing parent (standing.parent coherent layered link)

omit layered in
/-- A property keeps its name. -/
theorem SameOutline.declarationName? {old : PropertyData}
    (property : before.property? ref = some old)
    : after.declarationName? ref = before.declarationName? ref := by
  cases ref with
  | none => rfl
  | some id =>
      have standing := standing_of_isDeclaration (isDeclaration_of_property property)
      exact SameAt.declarationName? (same.standing id standing) coherent.named same.names property

/-- The climb from a declaration reads the same file name. Every node that it passes is a
declaration, or the remains of one, where it ends in both forests.
-/
theorem SameOutline.climb {result : Option String} (climb : before.Climb ref result)
    (start : ∀ id, ref = some id → before.Standing id)
    : after.Climb ref result := by
  induction climb with
  | @lost ref missing =>
      cases ref with
      | none => exact .lost rfl
      | some id =>
          obtain ⟨node, found⟩ := nodes_isSome_iff.mpr (start id rfl).1
          simp [found] at missing
  | @arrived ref node fileName found file =>
      cases ref with
      | none => cases found
      | some id =>
          obtain ⟨old, new, oldFound, newFound, _, _, content⟩ := same.outline (start id rfl)
          obtain rfl := Option.some.inj (found.symm.trans oldFound)
          refine .arrived newFound ?_
          cases newData : new.data <;> simp_all [NodeData.untyped]
  | @up ref node result found inner above ih =>
      cases ref with
      | none => cases found
      | some id =>
          obtain ⟨old, new, oldFound, newFound, parents, _, content⟩ := same.outline (start id rfl)
          obtain rfl := Option.some.inj (found.symm.trans oldFound)
          have kinds := congrArg NodeData.kind content
          simp only [NodeData.kind_untyped] at kinds
          refine .up newFound (by rwa [Node.kind, kinds]) ?_
          rw [parents]
          refine ih fun parent link => ?_
          exact (start id rfl).parent coherent layered
            (parentOf_eq_some_iff.mpr ⟨node, found, link⟩)

end Queries

/-- A walk over the declarations goes the same way, whichever type references are pending among
them, by induction on the walk.
-/
theorem SameOutline.walk (same : SameOutline before after) {pending others result : List NodeId}
    (walk : before.Walk pending result)
    (agree : others.filter before.isDeclaration = pending.filter before.isDeclaration)
    : after.Walk others result := by
  have passed {leaves rest result : List NodeId}
      (leaf : ∀ id ∈ leaves, ¬ before.isDeclaration id) (walk : after.Walk rest result)
      : after.Walk (leaves ++ rest) result :=
    walk.skip_leaves fun id member => by simpa [same.isDeclaration] using leaf id member
  have entered {id : NodeId} {rest pending : List NodeId} (inner : before.isDeclaration id)
      (agree : rest.filter before.isDeclaration = pending.filter before.isDeclaration)
      : (after.childrenOf (some id) ++ rest).filter before.isDeclaration
        = (before.childrenOf (some id) ++ pending).filter before.isDeclaration := by
    rw [List.filter_append, List.filter_append, same.children id inner, agree]
  have isProperty (id : NodeId)
      : (after.property? (some id)).isSome = (before.property? (some id)).isSome := by
    simpa using congrArg Option.isSome (same.property? (some id))
  induction walk generalizing others with
  | done =>
      have leaves := List.filter_eq_nil_iff.mp agree
      simpa using passed leaves .done
  | skip leaf _ ih =>
      rw [List.filter_cons_of_neg (by simp [leaf])] at agree
      exact ih agree
  | @enter id pending result inner other _ ih =>
      rw [List.filter_cons_of_pos inner] at agree
      obtain ⟨leaves, rest, rfl, leaf, _, agree⟩ := List.filter_eq_cons_iff.mp agree
      have noProperty : after.property? (some id) = none := by
        simpa [other] using isProperty id
      exact passed leaf (.enter (by rwa [same.isDeclaration]) noProperty
        (ih (entered inner agree)))
  | @list id data pending result property _ ih =>
      have inner := isDeclaration_of_property property
      rw [List.filter_cons_of_pos inner] at agree
      obtain ⟨leaves, rest, rfl, leaf, _, agree⟩ := List.filter_eq_cons_iff.mp agree
      obtain ⟨newData, newProperty⟩ : ∃ newData, after.property? (some id) = some newData := by
        simpa [property, Option.isSome_iff_exists] using isProperty id
      exact passed leaf (.list newProperty (ih (entered inner agree)))

/-- The same properties are met below every root. -/
theorem SameOutline.properties (same : SameOutline before after) (coherent : before.Coherent)
    (layered : before.Layered) (afterCoherent : after.Coherent) (afterLayered : after.Layered)
    (root : NodeRef)
    : after.properties root = before.properties root := by
  have walked := (coherent.walk_properties layered root).1
  exact (afterCoherent.walk_properties afterLayered root).1.deterministic (same.walk walked rfl)

/-- A declaration stands in the same source file. -/
theorem SameOutline.fileName? (same : SameOutline before after) (coherent : before.Coherent)
    (layered : before.Layered) (afterCoherent : after.Coherent) (afterLayered : after.Layered)
    (declared : before.isDeclaration id)
    : after.fileName? (some id) = before.fileName? (some id) := by
  have climbed := (coherent.acyclic layered).climb_fileName? (some id)
  refine ((afterCoherent.acyclic afterLayered).climb_fileName? (some id)).deterministic ?_
  refine same.climb coherent layered climbed fun other equal => ?_
  exact Option.some.inj equal ▸ standing_of_isDeclaration declared

/-- Nothing is met below a root that is no declaration. -/
theorem Coherent.properties_of_leaf (coherent : forest.Coherent) (layered : forest.Layered)
    (leaf : forest.isDeclaration id = false)
    : forest.properties (some id) = [] :=
  (coherent.walk_properties layered (some id)).1.deterministic (.skip leaf .done)

-----------------------------------------------------------------------------------------
-- Edits of types leave the outline alone
-----------------------------------------------------------------------------------------

theorem isDeclaration_of_isTypeReference (typed : forest.isTypeReference id)
    : forest.isDeclaration id = false := by
  have kind : forest.kind? (some id) = some .typeReference := by
    simpa [isTypeReference] using typed
  simp [Forest.isDeclaration, kind]

theorem isDeclaration_of_missing (missing : forest.size ≤ id)
    : forest.isDeclaration id = false := by
  have absent : forest.nodes[id]? = none := by simpa [size] using missing
  simp [Forest.isDeclaration, Forest.kind?, absent]

theorem Grown.sameOutline (grown : Grown before after)
    : SameOutline before after where
  standing id standing := by rw [grown.kept id standing.1]
  leaf id fallen := by
    by_cases known : id < before.size
    · have typed : before.isTypeReference id := by simpa [Standing, known] using fallen
      exact isDeclaration_of_isTypeReference ((grown.isTypeReference known).trans typed)
    · by_cases new : id < after.size
      · exact isDeclaration_of_isTypeReference (grown.typed id new (Nat.not_lt.mp known))
      · exact isDeclaration_of_missing (Nat.not_lt.mp new)
  children id declared := by
    rw [grown.childrenOf (standing_of_isDeclaration declared).1]
  names := grown.names

/-- What is not at or below the removed node stays, except that its parent lists it no more. -/
theorem sameAt_remove {root : NodeId} (apart : ¬ forest.Below root id)
    : SameAt forest (forest.remove (some root)) id := by
  rw [SameAt, nodes_remove_apart apart, Option.map_map]
  congr 1
  funext node
  simp only [Function.comp_apply]
  split
  · exact node.outline_release root
  · rfl

/-- Removing a type reference erases no declaration: below it stand type references only. -/
theorem Layered.sameOutline_remove (layered : forest.Layered) (linked : forest.Linked)
    {root : NodeId} (typed : forest.isTypeReference root)
    : SameOutline forest (forest.remove (some root)) where
  standing id standing := sameAt_remove (layered.not_below linked typed standing.2)
  leaf id fallen := by
    by_cases below : forest.Below root id
    · have found := isTypeReference_lt_size typed
      have erased := (queries_remove_below found below (linked.below_lt_size found below)).2.2
      simp [Forest.isDeclaration, kind?_eq, erased, NodeData.kind]
    · have same : (forest.remove (some root)).isDeclaration id = forest.isDeclaration id := by
        simp only [Forest.isDeclaration, kind?_remove_apart below]
      exact same.trans (isDeclaration_of_not_standing fallen)
  children id declared := by
    have apart := layered.not_below linked typed (standing_of_isDeclaration declared).2
    rw [linked.childrenOf_remove apart, List.filter_filter]
    refine List.filter_congr fun child _ => ?_
    by_cases same : child = root
    · simp [same, isDeclaration_of_isTypeReference typed]
    · simp [same]
  names := by
    rw [interner_remove]
    exact .refl _

/-- Filling a slot adds a type reference and no declaration below the property. -/
theorem Vacant.sameOutline {property type : NodeId} (vacant : forest.Vacant property type)
    : SameOutline forest (forest.fillSlot property type) where
  standing id standing := by
    have other : id ≠ type := by
      intro equal
      subst equal
      exact absurd vacant.typed (by simp [standing.2])
    rw [vacant.nodes_fillSlot, Option.map_map]
    congr 1
    funext node
    simp only [Function.comp_apply, if_neg other]
    split
    · rw [Node.outline_withTypeSlot]
      rfl
    · rfl
  leaf id fallen := by
    have same : (forest.fillSlot property type).isDeclaration id = forest.isDeclaration id := by
      simp only [Forest.isDeclaration, Forest.kind?_fillSlot]
    exact same.trans (isDeclaration_of_not_standing fallen)
  children id declared := by
    rw [vacant.childrenOf_fillSlot]
    split
    · simp [List.filter_append, isDeclaration_of_isTypeReference vacant.typed]
    · rfl
  names := by
    rw [interner_fillSlot]
    exact .refl _

/-- Replacing the type of a property leaves the outline alone. -/
theorem Attaches.sameOutline {property type : NodeId} {data : PropertyData}
    (attaches : forest.Attaches property type data) (coherent : forest.Coherent)
    (layered : forest.Layered)
    : SameOutline forest ((forest.remove data.typeSlot).fillSlot property type) := by
  refine SameOutline.trans ?_ (attaches.vacant coherent).sameOutline
  cases slot : data.typeSlot with
  | none => exact .refl forest
  | some previous =>
      exact layered.sameOutline_remove coherent.linked (coherent.slot attaches.property slot).2

/-- An attempt to attach a type, whatever it returns, removes at most the previous type, below
which stands no declaration.
-/
theorem Coherent.sameOutline_attachType (coherent : forest.Coherent) (layered : forest.Layered)
    (property typeRef : NodeRef)
    : SameOutline forest (forest.attachType property typeRef).2 := by
  rcases coherent.attachType_cases property typeRef with
    ⟨_, same⟩ | ⟨target, type, data, rfl, rfl, attaches, done⟩
  · rw [same]
    exact .refl forest
  · rw [done]
    exact attaches.sameOutline coherent layered

end Forest

end PropertyLint
