import PropertyLint.Proofs.Forest.TypeParts

/-! The arguments that a type reference names.
A type reference names its arguments in its content and lists them below itself. Only a removal that
names an argument drives the two apart: the type reference is never rewritten, so it goes on naming
the removed node.
-/

namespace PropertyLint.Forest

open Relation (TransGen)

variable {forest before middle after : Forest} {id type argument root : NodeId} {ref : NodeRef}
  {rule : ParentRule}

/-- The type reference names the other node as one of its arguments. -/
def IsArgument (forest : Forest) (type argument : NodeId) : Prop :=
  ∃ data, forest.typeReference? (some type) = some data ∧ argument ∈ data.arguments

/-- The second node is a type reference below the first one. -/
structure Holds (forest : Forest) (type argument : NodeId) : Prop where
  link : forest.parentOf (some argument) = some type
  typed : forest.isTypeReference argument

/-- Type references hold the arguments that they name, apart from arguments that were removed. -/
def OwnsArguments (forest : Forest) : Prop :=
  ∀ type argument,
    forest.IsArgument type argument
    → forest.Holds type argument ∨ forest.kind? (some argument) = some .removed

/-- From `before` to `after` no type reference has lost an argument. -/
def KeepsArguments (before after : Forest) : Prop :=
  ∀ type argument,
    after.IsArgument type argument
    → after.Holds type argument
      ∨ after.kind? (some argument) = some .removed
        ∧ before.IsArgument type argument
        ∧ before.kind? (some argument) = some .removed

theorem IsArgument.typed (names : forest.IsArgument type argument)
    : forest.isTypeReference type := by
  obtain ⟨data, found, _⟩ := names
  exact isTypeReference_iff.mpr ⟨data, typeReference?_eq_some_iff.mp found⟩

theorem IsArgument.lt_size (names : forest.IsArgument type argument) : type < forest.size :=
  isTypeReference_lt_size names.typed

theorem Holds.alive (holds : forest.Holds type argument)
    : forest.kind? (some argument) ≠ some .removed := by
  intro removed
  have typed := holds.typed
  simp [isTypeReference, removed] at typed

theorem KeepsArguments.owns (keeps : KeepsArguments before after) : after.OwnsArguments :=
  fun type argument names => (keeps type argument names).imp_right And.left

theorem OwnsArguments.keeps (owns : forest.OwnsArguments) : KeepsArguments forest forest := by
  intro type argument names
  exact (owns type argument names).imp_right fun removed => ⟨removed, names, removed⟩

/-- What has been lost at the end had been lost in the middle, and so at the start. -/
theorem KeepsArguments.trans (first : KeepsArguments before middle)
    (second : KeepsArguments middle after)
    : KeepsArguments before after := by
  intro type argument names
  rcases second type argument names with holds | ⟨removed, earlier, gone⟩
  · exact Or.inl holds
  · rcases first type argument earlier with holds | ⟨_, start, lost⟩
    · exact absurd gone holds.alive
    · exact Or.inr ⟨removed, start, lost⟩

theorem kind?_lt_size {kind : NodeKind} (found : forest.kind? (some id) = some kind)
    : id < forest.size := by
  obtain ⟨node, present, _⟩ := Option.map_eq_some_iff.mp found
  exact lt_size_of_found present

-----------------------------------------------------------------------------------------
-- New nodes
-----------------------------------------------------------------------------------------

/-- Growth loses no argument, if the new type references hold theirs. -/
theorem Grown.keepsArguments (grown : Grown before after) (owns : before.OwnsArguments)
    (fresh
      : ∀ type argument,
          before.size ≤ type → after.IsArgument type argument → after.Holds type argument)
    : KeepsArguments before after := by
  intro type argument names
  by_cases old : type < before.size
  · have earlier : before.IsArgument type argument := by
      obtain ⟨data, found, member⟩ := names
      refine ⟨data, ?_, member⟩
      rw [typeReference?_eq_some_iff] at found ⊢
      rwa [grown.content? old] at found
    rcases owns type argument earlier with holds | removed
    · have known := parentOf_lt_size holds.link
      exact Or.inl ⟨(grown.parentOf known).trans holds.link,
        (grown.isTypeReference known).trans holds.typed⟩
    · have still : after.kind? (some argument) = some .removed := by
        rwa [kind?_eq, grown.content? (kind?_lt_size removed), ← kind?_eq]
      exact Or.inr ⟨still, earlier, removed⟩
  · exact Or.inl (fresh type argument (Nat.not_lt.mp old) names)

/-- Interned names and new declarations bring no type reference. -/
theorem OwnsArguments.intern (owns : forest.OwnsArguments) (text : String)
    : KeepsArguments forest (forest.intern text).2 := by
  refine (Grown.intern forest text).keepsArguments owns fun type argument fresh names => ?_
  exact absurd names.lt_size (Nat.not_lt.mpr fresh)

theorem OwnsArguments.push (owns : forest.OwnsArguments) (known : forest.Known ref) {span : Span}
    {data : NodeData} (other : data.kind ≠ .typeReference)
    : KeepsArguments forest (forest.push ref span data).2 := by
  intro type argument names
  have earlier : forest.IsArgument type argument := by
    obtain ⟨typeData, found, member⟩ := names
    refine ⟨typeData, ?_, member⟩
    rw [typeReference?_eq_some_iff] at found ⊢
    rw [content?_push known] at found
    split at found
    · rw [Option.some.inj found] at other
      exact absurd rfl other
    · exact found
  rcases owns type argument earlier with ⟨link, typed⟩ | removed
  · have old := Nat.ne_of_lt (parentOf_lt_size link)
    refine Or.inl ⟨?_, ?_⟩
    · rw [parentOf_push known, if_neg old, link]
    · rw [isTypeReference_push known, if_neg old, typed]
  · have old := Nat.ne_of_lt (kind?_lt_size removed)
    refine Or.inr ⟨?_, earlier, removed⟩
    rw [kind?_eq, content?_push known, if_neg old, ← kind?_eq, removed]

/-- Each new type reference lists the arguments that it names. -/
theorem Coherent.addType_keepsArguments (coherent : forest.Coherent) (owns : forest.OwnsArguments)
    (expr : TypeExpr)
    : KeepsArguments forest (forest.addType expr).2 := by
  have added := (addType_added coherent expr).1
  have spelled := addType_spelled coherent.named.consistent expr
  refine added.grown.keepsArguments owns fun type argument fresh names => ?_
  obtain ⟨part, spells⟩ := spelled.exists_spells fresh names.lt_size
  obtain ⟨data, found, children⟩ := spells.arguments
  obtain ⟨other, again, member⟩ := names
  obtain rfl := Option.some.inj (found.symm.trans again)
  rw [← children] at member
  have linked := added.coherent.linked
  have later := added.grown.fresh_child coherent.linked linked fresh member
  exact ⟨(linked.link type argument).mp member,
    added.grown.typed argument (linked.child_lt_size member) later⟩

-----------------------------------------------------------------------------------------
-- Removed nodes
-----------------------------------------------------------------------------------------

/-- A removed node that is removed again, or not at all, stays removed. -/
theorem kind?_remove_removed (removed : forest.kind? (some id) = some .removed)
    : (forest.remove (some root)).kind? (some id) = some .removed := by
  by_cases below : forest.Below root id
  · by_cases found : root < forest.size
    · rw [kind?_eq, (queries_remove_below found below (kind?_lt_size removed)).2.2]
      rfl
    · rwa [remove_missing (by simpa [size] using found)]
  · rwa [kind?_remove_apart below]

/-- A removal takes an argument from a type reference that stays only by naming the argument: what
is below another removed node goes with its type.
-/
theorem Coherent.isArgument_remove (coherent : forest.Coherent) (owns : forest.OwnsArguments)
    (found : root < forest.size) (names : (forest.remove (some root)).IsArgument type argument)
    : forest.IsArgument type argument
      ∧ ((forest.remove (some root)).Holds type argument
        ∨ (forest.remove (some root)).kind? (some argument) = some .removed
          ∧ (forest.kind? (some argument) = some .removed ∨ argument = root)) := by
  have known : type < forest.size := by simpa using names.lt_size
  have apart : ¬ forest.Below root type := ((isTypeReference_remove found known).mp names.typed).1
  obtain ⟨data, after, member⟩ := names
  have earlier : forest.IsArgument type argument :=
    ⟨data, typeReference?_of_remove known after, member⟩
  refine ⟨earlier, ?_⟩
  rcases owns type argument earlier with holds | removed
  · have argumentKnown := parentOf_lt_size holds.link
    by_cases below : forest.Below root argument
    · have named : argument = root := by
        by_contra other
        obtain ⟨parent, link, reached⟩ := coherent.linked.below_parent below other
        rw [holds.link] at link
        exact apart (Option.some.inj link ▸ reached)
      refine Or.inr ⟨?_, Or.inr named⟩
      rw [kind?_eq, (queries_remove_below found below argumentKnown).2.2]
      rfl
    · exact Or.inl ⟨(parentOf_remove_apart below).trans holds.link,
        (isTypeReference_remove found argumentKnown).mpr ⟨below, holds.typed⟩⟩
  · exact Or.inr ⟨kind?_remove_removed removed, Or.inl removed⟩

/-- The removal of a node that no type reference names takes no argument from what stays. -/
theorem Coherent.remove_keepsArguments (coherent : forest.Coherent) (owns : forest.OwnsArguments)
    (ref : NodeRef) (apart : ∀ root, ref = some root → ∀ type, ¬ forest.IsArgument type root)
    : KeepsArguments forest (forest.remove ref) := by
  rcases forest.remove_cases ref with same | ⟨root, rfl, found⟩
  · rw [same]
    exact owns.keeps
  · intro type argument names
    obtain ⟨earlier, holds | ⟨removed, lost | rfl⟩⟩ := coherent.isArgument_remove owns found names
    · exact Or.inl holds
    · exact Or.inr ⟨removed, earlier, lost⟩
    · exact absurd earlier (apart argument rfl type)

theorem Coherent.remove_ownsArguments (coherent : forest.Coherent) (owns : forest.OwnsArguments)
    (ref : NodeRef)
    : (forest.remove ref).OwnsArguments := by
  rcases forest.remove_cases ref with same | ⟨root, rfl, found⟩
  · rwa [same]
  · intro type argument names
    exact (coherent.isArgument_remove owns found names).2.imp_right And.left

-----------------------------------------------------------------------------------------
-- Replaced types
-----------------------------------------------------------------------------------------

/-- Filling a slot moves a type reference that was no argument. -/
theorem Vacant.keepsArguments {property : NodeId} (vacant : forest.Vacant property type)
    (owns : forest.OwnsArguments)
    : KeepsArguments forest (forest.fillSlot property type) := by
  intro owner argument names
  have earlier : forest.IsArgument owner argument := by
    obtain ⟨data, found, member⟩ := names
    exact ⟨data, typeReference?_fillSlot ▸ found, member⟩
  rcases owns owner argument earlier with ⟨link, typed⟩ | removed
  · have other : argument ≠ type := by
      rintro rfl
      rw [vacant.free] at link
      cases link
    refine Or.inl ⟨?_, ?_⟩
    · rw [vacant.parentOf_fillSlot, if_neg other, link]
    · rwa [isTypeReference_fillSlot]
  · exact Or.inr ⟨kind?_fillSlot.trans removed, earlier, removed⟩

/-- The type in a slot is no argument: it is below its property. -/
theorem Coherent.slot_not_argument (coherent : forest.Coherent) (owns : forest.OwnsArguments)
    {property : NodeId} {data : PropertyData} (found : forest.property? (some property) = some data)
    (filled : data.typeSlot = some type) (owner : NodeId)
    : ¬ forest.IsArgument owner type := by
  intro names
  obtain ⟨link, typed⟩ := coherent.slot found filled
  rcases owns owner type names with holds | removed
  · have same : owner = property := Option.some.inj (holds.link.symm.trans link)
    have typedOwner := names.typed
    rw [same, isTypeReference_of_property found] at typedOwner
    cases typedOwner
  · simp [isTypeReference, removed] at typed

/-- Replacing a type takes no argument from the types that stay, whatever the attempt returns. -/
theorem Coherent.attachType_keepsArguments (coherent : forest.Coherent)
    (owns : forest.OwnsArguments) (property typeRef : NodeRef)
    : KeepsArguments forest (forest.attachType property typeRef).2 := by
  rcases coherent.attachType_cases property typeRef with
    ⟨_, same⟩ | ⟨target, type, data, rfl, rfl, attaches, done⟩
  · rw [same]
    exact owns.keeps
  · rw [done]
    have vacated : KeepsArguments forest (forest.remove data.typeSlot) :=
      coherent.remove_keepsArguments owns _ fun previous filled =>
        coherent.slot_not_argument owns attaches.property filled
    exact vacated.trans ((attaches.vacant coherent).keepsArguments vacated.owns)

-----------------------------------------------------------------------------------------
-- Whole histories
-----------------------------------------------------------------------------------------

/-- A change other than a removal loses no argument. -/
theorem Lasting.keepsArguments (change : Lasting rule forest after) (stable : rule.Stable)
    (coherent : forest.Coherent) (owns : forest.OwnsArguments)
    : KeepsArguments forest after := by
  cases change with
  | intern text => exact owns.intern text
  | declare span allowed declares _ => exact owns.push (stable.known allowed) declares.kind_ne
  | addType expr => exact coherent.addType_keepsArguments owns expr
  | attachType property typeRef => exact coherent.attachType_keepsArguments owns property typeRef

/-- Changes other than removals lose no argument, by induction on them. -/
theorem LastingChanges.keepsArguments (changes : LastingChanges rule forest after)
    (stable : rule.Stable) (coherent : forest.Coherent) (owns : forest.OwnsArguments)
    : KeepsArguments forest after := by
  induction changes with
  | refl => exact owns.keeps
  | tail earlier change ih =>
      have before := Changes.coherent (LastingChanges.changes earlier) stable coherent
      exact ih.trans (change.keepsArguments stable before ih.owns)

/-- Every edit other than the removal of an argument loses none. -/
theorem Coherent.edit_keepsArguments (coherent : forest.Coherent) (owns : forest.OwnsArguments)
    (stable : rule.Stable) (edit : Edit) (allowed : rule forest edit.parent)
    (apart : ∀ root, edit = .remove (some root) → ∀ type, ¬ forest.IsArgument type root)
    : KeepsArguments forest (edit.apply forest) := by
  by_cases removal : ∃ ref, edit = .remove ref
  · obtain ⟨ref, rfl⟩ := removal
    exact coherent.remove_keepsArguments owns ref fun root same => apart root (same ▸ rfl)
  · have lasting := coherent.lastingChanges stable edit allowed (not_exists.mp removal)
    exact LastingChanges.keepsArguments lasting stable coherent owns

/-- After every history type references hold the arguments that they name, as far as these have not
been removed, by induction on it.
-/
theorem Edited.ownsArguments {start : Forest} (edited : Edited rule start forest)
    (stable : rule.Stable) (coherent : start.Coherent) (owns : start.OwnsArguments)
    : forest.OwnsArguments := by
  induction edited with
  | refl => exact owns
  | step earlier edit allowed ih =>
      have before := Edited.coherent earlier stable coherent
      by_cases removal : ∃ ref, edit = .remove ref
      · obtain ⟨ref, rfl⟩ := removal
        exact before.remove_ownsArguments ih ref
      · exact (before.edit_keepsArguments ih stable edit allowed fun root same =>
          absurd ⟨_, same⟩ removal).owns

theorem empty_ownsArguments : OwnsArguments .empty := by
  rintro type argument ⟨data, found, _⟩
  simp [typeReference?, empty] at found

/-- A forest made from nothing under either promise satisfies the invariant and owns the arguments
of its types.
-/
theorem reachable_owned (reachable : Reachable rule forest) (stable : rule.Stable)
    : forest.Coherent ∧ forest.OwnsArguments :=
  ⟨Edited.coherent reachable stable empty_coherent,
    Edited.ownsArguments reachable stable empty_coherent empty_ownsArguments⟩

end PropertyLint.Forest
