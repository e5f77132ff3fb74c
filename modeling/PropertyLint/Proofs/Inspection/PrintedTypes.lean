import PropertyLint.Proofs.Forest.TypeArguments
import PropertyLint.Proofs.Inspection.Reinspection

/-! When the type in a slot can be printed.
The inspection takes a property for annotated when its slot is filled. The type in the slot has a
text only while none of the arguments that it names has been removed. A removal repairs the slot of
a property but not the arguments of a type reference, so that the two can come apart.
-/

namespace PropertyLint

namespace Forest

open Relation (TransGen)

variable {forest : Forest} {id type argument root : NodeId}

-----------------------------------------------------------------------------------------
-- Types with all their arguments
-----------------------------------------------------------------------------------------

/-- None of the arguments that the type reference names, at any depth, has been removed. -/
def Intact (forest : Forest) (type : NodeId) : Prop :=
  ∀ argument,
    TransGen forest.IsArgument type argument → forest.kind? (some argument) ≠ some .removed

/-- A type is intact when its arguments are there and are intact themselves. -/
theorem intact_iff
    : forest.Intact type
      ↔ ∀ argument,
          forest.IsArgument type argument
          → forest.kind? (some argument) ≠ some .removed ∧ forest.Intact argument := by
  constructor
  · intro intact argument names
    exact ⟨intact argument (.single names), fun inner path => intact inner (.head names path)⟩
  · intro arguments inner path
    obtain ⟨argument, names, rest⟩ := TransGen.head'_iff.mp path
    rcases Relation.reflTransGen_iff_eq_or_transGen.mp rest with rfl | rest
    · exact (arguments _ names).1
    · exact (arguments argument names).2 inner rest

/-- Reading a type back takes one level of budget for it and leaves the rest for its arguments. -/
theorem isSome_typeExprWithin_succ {budget : Nat}
    : (forest.typeExprWithin (budget + 1) (some id)).isSome
      ↔ forest.isTypeReference id
        ∧ ∀ argument,
            forest.IsArgument id argument
            → (forest.typeExprWithin budget (some argument)).isSome := by
  have typed : forest.isTypeReference id ↔ (forest.typeReference? (some id)).isSome := by
    simp [Option.isSome_iff_exists, typeReference?_eq_some_iff, isTypeReference_iff]
  rw [typed, typeExprWithin]
  simp only [IsArgument]
  cases forest.typeReference? (some id) with
  | none => simp
  | some data =>
      cases data with
      | star => simp [TypeReferenceData.arguments]
      | named name arguments nullable =>
          simp [TypeReferenceData.arguments, ← isSome_mapM_iff, Option.isSome_bind]

section Owned

variable (coherent : forest.Coherent) (owns : forest.OwnsArguments)

include owns in
/-- An argument has not been removed exactly when it still is a type reference. -/
theorem OwnsArguments.alive_iff (names : forest.IsArgument type argument)
    : forest.kind? (some argument) ≠ some .removed ↔ forest.isTypeReference argument := by
  rcases owns type argument names with holds | removed
  · exact iff_of_true holds.alive holds.typed
  · simp [isTypeReference, removed]

include coherent owns

/-- A type is read back exactly when it is intact, by induction on the budget: an argument that is
still there has a smaller index than its type.
-/
theorem Coherent.isSome_typeExprWithin (budget : Nat) {id : NodeId} (room : id < budget)
    : (forest.typeExprWithin budget (some id)).isSome
      ↔ forest.isTypeReference id ∧ forest.Intact id := by
  induction budget generalizing id with
  | zero => exact absurd room (Nat.not_lt_zero id)
  | succ budget ih =>
      rw [isSome_typeExprWithin_succ, intact_iff]
      refine and_congr_right' (forall₂_congr fun argument names => ?_)
      rw [owns.alive_iff names]
      rcases owns id argument names with holds | removed
      · have smaller := coherent.ordered.argument holds.link names.typed holds.typed
        exact ih (Nat.lt_of_lt_of_le smaller (Nat.lt_succ_iff.mp room))
      · have gone : ¬ forest.isTypeReference argument := by simp [isTypeReference, removed]
        refine iff_of_false (fun reads => gone ?_) fun whole => gone whole.1
        cases budget with
        | zero => cases reads
        | succ budget => exact (isSome_typeExprWithin_succ.mp reads).1

/-- The type in the slot of a property has a text exactly when it is intact. -/
theorem Coherent.isSome_propertyTypeText? {data : PropertyData}
    (found : forest.property? (some id) = some data)
    : (forest.propertyTypeText? (some id)).isSome
      ↔ ∃ type, data.typeSlot = some type ∧ forest.Intact type := by
  rw [propertyTypeText?_eq, propertyTypeExpr?, found, Option.isSome_map, Option.bind_some]
  cases slot : data.typeSlot with
  | none => simp [typeExpr?_none]
  | some type =>
      obtain ⟨_, typed⟩ := coherent.slot found slot
      have room := Nat.lt_succ_of_lt (isTypeReference_lt_size typed)
      rw [typeExpr?, coherent.isSome_typeExprWithin owns _ room]
      simp [typed]

/-- The removal of an argument, at any depth, breaks a type that stays, by induction on the way down
to the argument: each type on the way stays and names the next one, or it is removed as well.
-/
theorem Coherent.not_intact_remove (names : TransGen forest.IsArgument type root)
    (stays : (forest.remove (some root)).isTypeReference type)
    : ¬ (forest.remove (some root)).Intact type := by
  have found : root < forest.size := by
    obtain ⟨owner, _, named⟩ := TransGen.tail'_iff.mp names
    rcases owns owner root named with holds | removed
    · exact parentOf_lt_size holds.link
    · exact kind?_lt_size removed
  have kept {owner argument : NodeId} (typed : (forest.remove (some root)).isTypeReference owner)
      (named : forest.IsArgument owner argument)
      : (forest.remove (some root)).IsArgument owner argument := by
    obtain ⟨data, content, member⟩ := named
    have apart := ((isTypeReference_remove found (size_remove _ ▸ isTypeReference_lt_size typed)).mp
      typed).1
    exact ⟨data, (typeReference?_remove_apart apart).trans content, member⟩
  have owned := coherent.remove_ownsArguments owns (some root)
  induction names using TransGen.head_induction_on with
  | single named =>
      intro intact
      refine intact root (.single (kept stays named)) ?_
      rw [kind?_eq, (queries_remove_below found .refl found).2.2]
      rfl
  | head named _ ih =>
      intro intact
      have next := kept stays named
      obtain ⟨alive, inner⟩ := intact_iff.mp intact _ next
      exact ih ((owned.alive_iff next).mp alive) inner

end Owned

-----------------------------------------------------------------------------------------
-- Histories that remove no argument
-----------------------------------------------------------------------------------------

/-- `forest` results from the empty forest by edits none of which removes a node that a type
reference names as its argument.
-/
inductive Sparing : Forest → Prop
  | empty : Sparing .empty
  | step {forest : Forest} (earlier : Sparing forest) (edit : Edit)
    (known : forest.Known edit.parent)
    (spared : ∀ root, edit = .remove (some root) → ∀ type, ¬ forest.IsArgument type root)
    : Sparing (edit.apply forest)

theorem Sparing.reachable (sparing : Sparing forest) : Reachable Known forest := by
  induction sparing with
  | empty => exact .refl
  | step _ edit known _ ih => exact ih.step edit known

/-- Types keep all their arguments, by induction on the history. -/
theorem Sparing.holds (sparing : Sparing forest)
    : ∀ type argument, forest.IsArgument type argument → forest.Holds type argument := by
  induction sparing with
  | empty =>
      intro type argument names
      exact absurd names.lt_size (Nat.not_lt_zero type)
  | step earlier edit known spared ih =>
      obtain ⟨coherent, owns⟩ := reachable_owned earlier.reachable known_stable
      intro type argument names
      have keeps := coherent.edit_keepsArguments owns known_stable edit known spared
      rcases keeps type argument names with holds | ⟨_, before, lost⟩
      · exact holds
      · exact absurd lost (ih type argument before).alive

theorem Sparing.intact (sparing : Sparing forest) (type : NodeId) : forest.Intact type := by
  intro argument path
  obtain ⟨owner, _, names⟩ := TransGen.tail'_iff.mp path
  exact (sparing.holds owner argument names).alive

end Forest

-----------------------------------------------------------------------------------------
-- Annotated properties
-----------------------------------------------------------------------------------------

namespace Inspection

open Forest Relation

/-- Which annotations can be printed. After every history a filled slot has a text exactly when no
argument of its type, at any depth, has been removed. While no edit removes an argument every filled
slot has a text, so that the inspection flags the properties without one; each edit that removes an
argument from a slot's type, and leaves the slot, takes the text away.
-/
theorem annotation_prints_iff_intact {forest : Forest} (reachable : Reachable Known forest)
    {id : NodeId} {data : PropertyData} (found : forest.property? (some id) = some data)
    : ((forest.propertyTypeText? (some id)).isSome
        ↔ ∃ type, data.typeSlot = some type ∧ forest.Intact type)
      ∧ (Sparing forest
        → ((forest.propertyTypeText? (some id)).isSome ↔ data.typeSlot.isSome)
          ∧ (isEligible forest (some id)
            ↔ forest.propertyTypeText? (some id) = none
              ∧ (forest.scope? (some id) = some .topLevel
                ∨ forest.scope? (some id) = some .member)))
      ∧ (∀ type root,
          data.typeSlot = some type
          → TransGen forest.IsArgument type root
          → (forest.remove (some root)).property? (some id) = some data
          → (forest.remove (some root)).propertyTypeText? (some id) = none) := by
  obtain ⟨coherent, owns⟩ := reachable_owned reachable known_stable
  have prints := coherent.isSome_propertyTypeText? owns found
  refine ⟨prints, fun sparing => ?_, fun type root filled names stays => ?_⟩
  · have filled : (forest.propertyTypeText? (some id)).isSome ↔ data.typeSlot.isSome := by
      rw [prints, Option.isSome_iff_exists]
      exact exists_congr fun type => and_iff_left (sparing.intact type)
    refine ⟨filled, ?_⟩
    have empty : forest.propertyTypeText? (some id) = none ↔ data.typeSlot = none := by
      simpa using not_congr filled
    rw [isEligible_iff, empty]
    simp [found]
  · have after := coherent.remove (some root)
    have owned := coherent.remove_ownsArguments owns (some root)
    have typed := (after.slot stays filled).2
    rw [← Option.not_isSome_iff_eq_none, after.isSome_propertyTypeText? owned stays]
    rintro ⟨other, again, intact⟩
    obtain rfl := Option.some.inj (filled.symm.trans again)
    exact coherent.not_intact_remove owns names typed intact

/-- A property of a file with a type that has an argument, made as nodes 1, 3 and 2. -/
def annotated : Forest :=
  [.addSourceFile "Shelf.kt" {},
    .addProperty (some 0) "books" false {} {},
    .addType (.named ["List"] [.named ["Book"] [] false] false),
    .attachType (some 1) (some 3)].foldl Edit.apply .empty

theorem annotated_sparing : Sparing annotated := by
  have known : (Forest.empty.addSourceFile "Shelf.kt" {}).2.Known (some 0) :=
    known_some Nat.zero_lt_one
  have file := Sparing.empty.step (.addSourceFile "Shelf.kt" {}) known_none (by simp)
  have property := file.step (.addProperty (some 0) "books" false {} {}) known (by simp)
  exact (property.step (.addType (.named ["List"] [.named ["Book"] [] false] false)) known_none
    (by simp)).step (.attachType (some 1) (some 3)) known_none (by simp)

theorem annotated_property
    : annotated.property? (some 1) = some ⟨1, {}, false, some 3⟩ := by
  cbv

theorem annotated_names_argument : annotated.IsArgument 3 2 :=
  ⟨.named [2] [2] false, by cbv, by simp [TypeReferenceData.arguments]⟩

/-- The property prints its type until the argument is removed. -/
theorem annotated_prints_until_removal
    : Sparing annotated
      ∧ (annotated.propertyTypeText? (some 1)).isSome
      ∧ (annotated.remove (some 2)).propertyTypeText? (some 1) = none := by
  obtain ⟨_, spared, breaks⟩ :=
    annotation_prints_iff_intact annotated_sparing.reachable annotated_property
  exact ⟨annotated_sparing, (spared annotated_sparing).1.mpr rfl,
    breaks 3 2 rfl (.single annotated_names_argument) (by cbv)⟩

/-- The property then counts as annotated and has no text: its type still names the removed node. -/
theorem annotated_removal_leaves_stale_argument
    : let after := annotated.remove (some 2)
      Reachable Known after
      ∧ after.property? (some 1) = some ⟨1, {}, false, some 3⟩
      ∧ after.propertyTypeText? (some 1) = none
      ∧ isEligible after (some 1) = false
      ∧ after.IsArgument 3 2
      ∧ after.kind? (some 2) = some .removed := by
  have reachable := annotated_sparing.reachable.step (.remove (some 2)) known_none
  have property : (annotated.remove (some 2)).property? (some 1) = some ⟨1, {}, false, some 3⟩ := by
    cbv
  have annotation : isEligible (annotated.remove (some 2)) (some 1) = false := by
    simp [isEligible, property]
  exact ⟨reachable, property, by cbv, annotation,
    ⟨.named [2] [2] false, by cbv, by simp [TypeReferenceData.arguments]⟩, by cbv⟩

end Inspection

end PropertyLint
