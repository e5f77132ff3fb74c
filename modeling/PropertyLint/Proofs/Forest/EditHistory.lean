import Mathlib.Data.List.Permutation
import PropertyLint.Proofs.Forest.Attachment

/-! Edit histories: everything that callers can do to a forest, in any order.
An edit is a sequence of a few kinds of changes. What each change keeps holds after every history,
by one induction on histories.
-/

namespace PropertyLint

/-- An edit of a forest, with what the caller gives. -/
inductive Edit where
  | addSourceFile (fileName : String) (span : Span)
  | addClass (parent : NodeRef) (name : String) (span : Span)
  | addFunction (parent : NodeRef) (name : String) (span : Span)
  | addBlock (parent : NodeRef) (span : Span)
  | addProperty (parent : NodeRef) (name : String) (isMutable : Bool) (span nameSpan : Span)
  | addTypedProperty (parent : NodeRef) (name typeText : String) (span nameSpan : Span)
  | addTypeText (text : String)
  | addType (expr : TypeExpr)
  | attachType (property typeRef : NodeRef)
  | remove (ref : NodeRef)
  | intern (text : String)

namespace Edit

/-- The parent that the caller gives for a new declaration, if any. -/
def parent : Edit → NodeRef
  | .addClass parent .. | .addFunction parent .. | .addBlock parent _ | .addProperty parent ..
  | .addTypedProperty parent .. => parent
  | .addSourceFile .. | .addTypeText _ | .addType _ | .attachType .. | .remove _ | .intern _ => none

/-- The forest after an attempt; a failed one leaves it as it was. -/
def settle {α : Type} (forest : Forest) : Except TypeParseError (α × Forest) → Forest
  | .ok (_, after) => after
  | .error _ => forest

/-- The forest after the edit. -/
def apply (forest : Forest) : Edit → Forest
  | .addSourceFile fileName span => (forest.addSourceFile fileName span).2
  | .addClass parent name span => (forest.addClass parent name span).2
  | .addFunction parent name span => (forest.addFunction parent name span).2
  | .addBlock parent span => (forest.addBlock parent span).2
  | .addProperty parent name isMutable span nameSpan =>
    (forest.addProperty parent name isMutable span nameSpan).2
  | .addTypedProperty parent name typeText span nameSpan =>
    settle forest (forest.addTypedProperty parent name typeText span nameSpan)
  | .addTypeText text => settle forest (forest.addTypeText text)
  | .addType expr => (forest.addType expr).2
  | .attachType property typeRef => (forest.attachType property typeRef).2
  | .remove ref => forest.remove ref
  | .intern text => (forest.intern text).2

end Edit

namespace Forest

/-- What callers promise of the parents that they give. -/
abbrev ParentRule := Forest → NodeRef → Prop

/-- A parent that is none, or an existing node other than a type reference. -/
def Declarable (forest : Forest) (ref : NodeRef) : Prop :=
  forest.Known ref ∧ forest.typeReference? ref = none

/-- `forest` results from `start` by edits whose parents satisfy the rule. -/
inductive Edited (rule : ParentRule) (start : Forest) : Forest → Prop
  | refl : Edited rule start start
  | step {forest} (earlier : Edited rule start forest) (edit : Edit)
    (allowed : rule forest edit.parent)
    : Edited rule start (edit.apply forest)

/-- `forest` results from the empty forest by edits whose parents satisfy the rule. -/
abbrev Reachable (rule : ParentRule) : Forest → Prop :=
  Edited rule .empty

end Forest

-----------------------------------------------------------------------------------------
-- Edits as sequences of changes
-----------------------------------------------------------------------------------------

/-- The content of a declaration that has just been made: a property has no type yet. -/
def NodeData.Declares : NodeData → Prop
  | .sourceFile _ | .classDeclaration _ | .functionDeclaration _ | .block => True
  | .property data => data.typeSlot = none
  | .typeReference _ | .removed => False

theorem NodeData.Declares.ne_removed {data : NodeData} (declares : data.Declares)
    : data ≠ .removed := by
  intro equal
  subst equal
  exact declares

theorem NodeData.Declares.kind_ne {data : NodeData} (declares : data.Declares)
    : data.kind ≠ .typeReference := by
  cases data <;> first | exact declares.elim | simp [NodeData.kind]

theorem NodeData.Declares.untyped {data : NodeData} (declares : data.Declares)
    (property : PropertyData) (same : data = .property property)
    : property.typeSlot = none := by
  subst same
  exact declares

namespace Forest

/-- One change of a forest other than a removal. Replacing a type is one, too, although the type in
the slot goes.
-/
inductive Lasting (rule : ParentRule) (forest : Forest) : Forest → Prop
  | intern (text : String) : Lasting rule forest (forest.intern text).2
  | declare {ref data} (span : Span) (allowed : rule forest ref) (declares : data.Declares)
    (atoms : ∀ atom ∈ data.atoms, atom < forest.interner.size)
    : Lasting rule forest (forest.push ref span data).2
  | addType (expr : TypeExpr) : Lasting rule forest (forest.addType expr).2
  | attachType (property typeRef : NodeRef)
    : Lasting rule forest (forest.attachType property typeRef).2

/-- One change of a forest. -/
inductive Change (rule : ParentRule) (forest : Forest) : Forest → Prop
  | lasting {after} (change : Lasting rule forest after) : Change rule forest after
  | remove (ref : NodeRef) : Change rule forest (forest.remove ref)

/-- A sequence of changes without a removal. -/
abbrev LastingChanges (rule : ParentRule) : Forest → Forest → Prop :=
  Relation.ReflTransGen (Lasting rule)

/-- A sequence of changes. -/
abbrev Changes (rule : ParentRule) : Forest → Forest → Prop :=
  Relation.ReflTransGen (Change rule)

/-- A rule that admits existing parents only, and keeps admitting them while type references and
names are added.
-/
structure ParentRule.Stable (rule : ParentRule) : Prop where
  known : ∀ {forest ref}, rule forest ref → forest.Known ref
  grown : ∀ {before after ref}, Grown before after → rule before ref → rule after ref

theorem known_stable : ParentRule.Stable Known where
  known known := known
  grown grown known id same := Nat.lt_of_lt_of_le (known id same) grown.size_le

theorem declarable_stable : ParentRule.Stable Declarable where
  known allowed := allowed.1
  grown := by
    intro before after ref grown given
    rcases given with ⟨known, other⟩
    refine ⟨known_stable.grown grown known, ?_⟩
    cases ref with
    | none => rfl
    | some id => simpa [typeReference?, grown.kept id (known id rfl)] using other

variable {rule : ParentRule} {forest after start : Forest}

theorem Grown.intern (forest : Forest) (text : String) : Grown forest (forest.intern text).2 where
  size_le := Nat.le_refl _
  kept _ _ := rfl
  typed _ known fresh := absurd known (Nat.not_lt.mpr fresh)
  names := forest.interner.intern_extends text

/-- Declaring under a name interns the name and appends the declaration. -/
theorem Coherent.declareNamed (coherent : forest.Coherent) (stable : rule.Stable) {ref : NodeRef}
    (allowed : rule forest ref) (name : String) (span : Span) (content : Atom → NodeData)
    (declares : ∀ atom, (content atom).Declares) (atoms : ∀ atom, (content atom).atoms = [atom])
    : LastingChanges rule forest
        ((forest.intern name).2.push ref span (content (forest.intern name).1)).2 := by
  refine .tail (.single (.intern name)) ?_
  refine .declare span (stable.grown (.intern forest name) allowed) (declares _) ?_
  intro atom member
  rw [atoms, List.mem_singleton] at member
  exact member ▸ coherent.named.consistent.intern_lt_size name

/-- A property with a type is made as a type, a property and an attachment; a text that is no type
makes nothing.
-/
theorem apply_addTypedProperty (parent : NodeRef) (name typeText : String) (span nameSpan : Span)
    : Edit.apply forest (.addTypedProperty parent name typeText span nameSpan)
      = match TypeExpr.parse typeText with
        | .error _ => forest
        | .ok expr =>
          (((forest.addType expr).2.addProperty parent name false span nameSpan).2.attachType
            (some (forest.addType expr).2.size) (some (forest.addType expr).1)).2 := by
  simp only [Edit.apply, addTypedProperty, addTypeText]
  cases TypeExpr.parse typeText <;> rfl

theorem apply_addTypeText (text : String)
    : Edit.apply forest (.addTypeText text)
      = match TypeExpr.parse text with
        | .error _ => forest
        | .ok expr => (forest.addType expr).2 := by
  simp only [Edit.apply, addTypeText]
  cases TypeExpr.parse text <;> rfl

/-- Every edit other than a removal is a sequence of changes without one. -/
theorem Coherent.lastingChanges (coherent : forest.Coherent) (stable : rule.Stable) (edit : Edit)
    (allowed : rule forest edit.parent) (lasting : ∀ ref, edit ≠ .remove ref)
    : LastingChanges rule forest (edit.apply forest) := by
  cases edit with
  | addSourceFile fileName span =>
      exact .single (.declare span allowed trivial (by simp [NodeData.atoms]))
  | addClass parent name span =>
      exact coherent.declareNamed stable allowed name span .classDeclaration
        (fun _ => trivial) (fun _ => rfl)
  | addFunction parent name span =>
      exact coherent.declareNamed stable allowed name span .functionDeclaration
        (fun _ => trivial) (fun _ => rfl)
  | addBlock parent span => exact .single (.declare span allowed trivial (by simp [NodeData.atoms]))
  | addProperty parent name isMutable span nameSpan =>
      exact coherent.declareNamed stable allowed name span
        (fun atom => .property ⟨atom, nameSpan, isMutable, none⟩) (fun _ => rfl) (fun _ => rfl)
  | addTypedProperty parent name typeText span nameSpan =>
      rw [apply_addTypedProperty]
      split
      · exact .refl
      · rename_i expr _
        obtain ⟨added, _⟩ := addType_added coherent expr
        have declared := added.coherent.declareNamed stable
          (stable.grown added.grown allowed) name span
          (fun atom => .property ⟨atom, nameSpan, false, none⟩) (fun _ => rfl) (fun _ => rfl)
        exact (declared.head (.addType expr)).tail (.attachType _ _)
  | addTypeText text =>
      rw [apply_addTypeText]
      split
      · exact .refl
      · exact .single (.addType _)
  | addType expr => exact .single (.addType expr)
  | attachType property typeRef => exact .single (.attachType property typeRef)
  | remove ref => exact absurd rfl (lasting ref)
  | intern text => exact .single (.intern text)

theorem LastingChanges.changes (changes : LastingChanges rule forest after)
    : Changes rule forest after :=
  Relation.ReflTransGen.mono (fun _ _ => Change.lasting) _ _ changes

/-- Every edit is a sequence of changes. -/
theorem Coherent.changes (coherent : forest.Coherent) (stable : rule.Stable) (edit : Edit)
    (allowed : rule forest edit.parent)
    : Changes rule forest (edit.apply forest) := by
  by_cases removal : ∃ ref, edit = .remove ref
  · obtain ⟨ref, rfl⟩ := removal
    exact .single (.remove ref)
  · exact (coherent.lastingChanges stable edit allowed (not_exists.mp removal)).changes

-----------------------------------------------------------------------------------------
-- Names are kept in step whatever parents callers give
-----------------------------------------------------------------------------------------

/-- Every edit keeps the two directions of the interner in step. -/
theorem consistent_edit (consistent : forest.interner.Consistent) (edit : Edit)
    : (edit.apply forest).interner.Consistent := by
  cases edit with
  | addSourceFile | addBlock => simpa [Edit.apply, addSourceFile, addBlock] using consistent
  | addClass _ name | addFunction _ name | addProperty _ name =>
      simpa [Edit.apply, addClass, addFunction, addProperty] using consistent.intern name
  | addTypedProperty parent name typeText span nameSpan =>
      rw [apply_addTypedProperty]
      split
      · exact consistent
      · simpa [addProperty] using (addType_spells consistent _).1.intern name
  | addTypeText text =>
      rw [apply_addTypeText]
      split
      · exact consistent
      · exact (addType_spells consistent _).1
  | addType expr => exact (addType_spells consistent expr).1
  | attachType property typeRef => simpa [Edit.apply] using consistent
  | remove ref => simpa [Edit.apply] using consistent
  | intern text => exact consistent.intern text

/-- After every history, by induction on it, the two directions of the interner are in step. -/
theorem Edited.consistent (edited : Edited rule start forest)
    (consistent : start.interner.Consistent)
    : forest.interner.Consistent := by
  induction edited with
  | refl => exact consistent
  | step _ edit _ ih => exact consistent_edit ih edit

-----------------------------------------------------------------------------------------
-- What every history keeps
-----------------------------------------------------------------------------------------

theorem Lasting.coherent (change : Lasting rule forest after) (stable : rule.Stable)
    (coherent : forest.Coherent)
    : after.Coherent := by
  cases change with
  | intern text => exact coherent.intern text
  | declare span allowed declares atoms =>
      exact coherent.push (stable.known allowed) declares.ne_removed
        (fun typed => absurd typed declares.kind_ne) declares.untyped atoms
  | addType expr => exact (addType_added coherent expr).1.coherent
  | attachType property typeRef => exact coherent.attachType property typeRef

/-- Every change keeps the invariant. -/
theorem Change.coherent (change : Change rule forest after) (stable : rule.Stable)
    (coherent : forest.Coherent)
    : after.Coherent := by
  cases change with
  | lasting change => exact change.coherent stable coherent
  | remove ref => exact coherent.remove ref

/-- No declaration is put below a type reference, so the layers stay. -/
theorem Lasting.layered (change : Lasting Declarable forest after) (coherent : forest.Coherent)
    (layered : forest.Layered)
    : after.Layered := by
  cases change with
  | intern text => exact layered
  | declare span allowed declares atoms =>
      refine layered.push coherent.linked allowed.1 fun parent same => ?_
      rw [Bool.eq_false_iff]
      intro typed
      obtain ⟨data, content⟩ := isTypeReference_iff.mp typed
      have other := allowed.2
      rw [same, typeReference?_eq_some_iff.mpr content] at other
      cases other
  | addType expr =>
      exact (addType_added coherent expr).1.grown.layered coherent.linked layered
  | attachType property typeRef => exact layered.attachType coherent property typeRef

/-- Every change keeps the layers when no declaration is put below a type reference. -/
theorem Change.layered (change : Change Declarable forest after) (coherent : forest.Coherent)
    (layered : forest.Layered)
    : after.Layered := by
  cases change with
  | lasting change => exact change.layered coherent layered
  | remove ref => exact layered.remove coherent.linked ref

/-- Every sequence of changes keeps the invariant, by induction on the sequence. -/
theorem Changes.coherent (changes : Changes rule forest after) (stable : rule.Stable)
    (coherent : forest.Coherent)
    : after.Coherent := by
  induction changes with
  | refl => exact coherent
  | tail _ change ih => exact change.coherent stable ih

theorem Changes.layered (changes : Changes Declarable forest after)
    (coherent : forest.Coherent) (layered : forest.Layered)
    : after.Layered := by
  induction changes with
  | refl => exact layered
  | tail earlier change ih =>
      exact change.layered (Changes.coherent earlier declarable_stable coherent) ih

/-- Every history keeps the invariant, and is a sequence of changes, by induction on it. -/
theorem Edited.changes (edited : Edited rule start forest) (stable : rule.Stable)
    (coherent : start.Coherent)
    : Changes rule start forest := by
  induction edited with
  | refl => exact .refl
  | step _ edit allowed ih =>
      exact ih.trans ((Changes.coherent ih stable coherent).changes stable edit allowed)

theorem Edited.coherent (edited : Edited rule start forest) (stable : rule.Stable)
    (coherent : start.Coherent)
    : forest.Coherent :=
  Changes.coherent (edited.changes stable coherent) stable coherent

theorem Edited.layered (edited : Edited Declarable start forest) (coherent : start.Coherent)
    (layered : start.Layered)
    : forest.Layered :=
  Changes.layered (edited.changes declarable_stable coherent) coherent layered

/-- A forest made from nothing, with no declaration below a type reference, satisfies both parts of
the invariant.
-/
theorem reachable_sound (reachable : Reachable Declarable forest)
    : forest.Coherent ∧ forest.Layered :=
  ⟨Edited.coherent reachable declarable_stable empty_coherent,
    Edited.layered reachable empty_coherent empty_layered⟩

/-- The weaker promise admits every history that the stronger one admits. -/
theorem Edited.known (edited : Edited Declarable start forest) : Edited Known start forest := by
  induction edited with
  | refl => exact .refl
  | step _ edit allowed ih => exact ih.step edit allowed.1

theorem declarable_none : Declarable forest none :=
  ⟨known_none, rfl⟩

theorem declarable_some {id : NodeId} (known : id < forest.size)
    (noType : forest.typeReference? (some id) = none)
    : Declarable forest (some id) :=
  ⟨known_some known, noType⟩

/-- A property whose type has been replaced: the first type is left erased at index 2. -/
def retyped : Forest :=
  [.addSourceFile "Shelf.kt" {},
    .addProperty (some 0) "books" false {} {},
    .addType (.named ["List"] [] false),
    .attachType (some 1) (some 2),
    .addType (.named ["Set"] [] true),
    .attachType (some 1) (some 3)].foldl Edit.apply .empty

theorem retyped_reachable : Reachable Declarable retyped := by
  have declarable : Declarable (Forest.empty.addSourceFile "Shelf.kt" {}).2 (some 0) :=
    declarable_some Nat.zero_lt_one rfl
  have file : Reachable Declarable (Forest.empty.addSourceFile "Shelf.kt" {}).2 :=
    .step .refl (.addSourceFile "Shelf.kt" {}) declarable_none
  have property := file.step (.addProperty (some 0) "books" false {} {}) declarable
  have typed := (property.step (.addType (.named ["List"] [] false)) declarable_none).step
    (.attachType (some 1) (some 2)) declarable_none
  exact (typed.step (.addType (.named ["Set"] [] true)) declarable_none).step
    (.attachType (some 1) (some 3)) declarable_none

-----------------------------------------------------------------------------------------
-- The type slot
-----------------------------------------------------------------------------------------

/-- After every history the type references below a property are exactly what its slot names: one
or none. A slot therefore names a living type reference of its own property, and no two properties
share one.
-/
theorem reachable_slot_names_only_annotation {forest : Forest} (reachable : Reachable Known forest)
    : (∀ id data,
        forest.property? (some id) = some data
        → (forest.childrenOf (some id)).filter
            (fun child => forest.kind? (some child) = some .typeReference)
          = data.typeSlot.toList)
      ∧ (∀ id data type,
          forest.property? (some id) = some data
          → data.typeSlot = some type
          → forest.kind? (some type) = some .typeReference
            ∧ forest.parentOf (some type) = some id)
      ∧ (∀ id other data otherData type,
          forest.property? (some id) = some data
          → forest.property? (some other) = some otherData
          → data.typeSlot = some type
          → otherData.typeSlot = some type
          → id = other) := by
  have coherent := Edited.coherent reachable known_stable empty_coherent
  refine ⟨coherent.slotted, ?_, ?_⟩
  · intro id data type property filled
    obtain ⟨link, typed⟩ := coherent.slot property filled
    exact ⟨by simpa [isTypeReference] using typed, link⟩
  · intro id other data otherData type property otherProperty filled otherFilled
    have link := (coherent.slot property filled).1
    have otherLink := (coherent.slot otherProperty otherFilled).1
    exact Option.some.inj (link.symm.trans otherLink)

theorem retyped_slot_names_second_type
    : Reachable Known retyped
      ∧ (retyped.childrenOf (some 1)).filter
          (fun child => retyped.kind? (some child) = some .typeReference) = [3]
      ∧ retyped.parentOf (some 3) = some 1 := by
  have reachable := retyped_reachable.known
  have property : retyped.property? (some 1) = some ⟨1, {}, false, some 3⟩ := by cbv
  have slots := reachable_slot_names_only_annotation reachable
  exact ⟨reachable, slots.1 1 _ property, (slots.2.1 1 _ 3 property rfl).2⟩

end Forest

end PropertyLint
