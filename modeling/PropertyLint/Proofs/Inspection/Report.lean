import PropertyLint.Proofs.Forest.Ascent
import PropertyLint.Proofs.Inspection.FixRuns

/-! What an inspection reports.
The inspection looks for properties from the root downwards and judges each by its parent. The
report is described from below: by the slot, the parent and the ascent of each property.
-/

namespace PropertyLint

open Forest (Declarable Reachable)

namespace Inspection

variable {settings : InspectionSettings} {service : TypeService} {forest : Forest} {root : NodeRef}
  {id : NodeId} {problem : Problem}

/-- A property without a type, directly in a source file or in a class, from which parents lead to
the root over declarations only.
-/
structure Reportable (forest : Forest) (root : NodeRef) (id : NodeId) : Prop where
  untyped : ∃ data, forest.property? (some id) = some data ∧ data.typeSlot = none
  placed
    : forest.kind? (forest.parentOf (some id)) = some .sourceFile
      ∨ forest.kind? (forest.parentOf (some id)) = some .classDeclaration
  ascends : ∃ top, root = some top ∧ forest.Ascends top id

/-- The types to offer: the known one in full and its supertypes by class names, or a placeholder.
-/
def fixTexts (settings : InspectionSettings) (service : TypeService) (node : NodeRef)
    : List String :=
  match service.declarationType? node, settings.includeSupertypes with
  | none, _ => ["null"]
  | some type, true => service.display type :: (service.supertypes type).map service.supertypeText
  | some type, false => [service.display type]

theorem offered_eq (settings : InspectionSettings) (service : TypeService) (node : NodeRef)
    : offered settings service node = fixTexts settings service node := by
  unfold offered fixTexts
  cases service.declarationType? node <;> cases settings.includeSupertypes <;>
    simp [suggestions, placeholder]

/-- The scope of a property is that of its parent. -/
theorem scope?_placed_iff {data : PropertyData} (property : forest.property? (some id) = some data)
    : forest.scope? (some id) = some .topLevel ∨ forest.scope? (some id) = some .member
      ↔ forest.kind? (forest.parentOf (some id)) = some .sourceFile
        ∨ forest.kind? (forest.parentOf (some id)) = some .classDeclaration := by
  unfold Forest.scope?
  rw [property]
  cases forest.kind? (forest.parentOf (some id)) with
  | none => simp
  | some kind => cases kind <;> simp

/-- A node is reportable when it is eligible and below the root. -/
theorem reportable_iff
    : Reportable forest root id
      ↔ isEligible forest (some id) ∧ ∃ top, root = some top ∧ forest.Ascends top id := by
  rw [isEligible_iff]
  constructor
  · intro reportable
    obtain ⟨data, property, empty⟩ := reportable.untyped
    have place := (scope?_placed_iff property).mpr reportable.placed
    exact ⟨⟨data, property, empty, place⟩, reportable.ascends⟩
  · rintro ⟨⟨data, property, empty, place⟩, ascends⟩
    exact ⟨⟨data, property, empty⟩, (scope?_placed_iff property).mp place, ascends⟩

/-- An enabled inspection visits the properties that the walk lists. -/
theorem mem_check_iff (enabled : settings.enabled)
    : problem ∈ check settings service forest root
      ↔ ∃ id ∈ forest.properties root,
          visit settings service forest ((forest.fileName? root).getD "") (some id)
            = some problem := by
  simp [check, enabled]

/-- A problem is on a reportable node, and says of it what the inspection knows. -/
theorem reported_iff (coherent : forest.Coherent) (layered : forest.Layered)
    (enabled : settings.enabled)
    : problem ∈ check settings service forest root
      ↔ ∃ id,
          Reportable forest root id
          ∧ problem
            = .ofNode forest ((forest.fileName? root).getD "") (some id) settings.message.text
                settings.severity.category
                ((fixTexts settings service (some id)).map TypeFix.mk) := by
  rw [mem_check_iff enabled]
  refine exists_congr fun id => ?_
  rw [coherent.mem_properties_iff layered, visit_eq_some_iff, reportable_iff, offered_eq]
  constructor
  · rintro ⟨⟨_, ascends⟩, eligible, same⟩
    exact ⟨⟨eligible, ascends⟩, same.symm⟩
  · rintro ⟨⟨eligible, ascends⟩, same⟩
    obtain ⟨data, property, _⟩ := isEligible_iff.mp eligible
    exact ⟨⟨⟨data, property⟩, ascends⟩, eligible, same.symm⟩

/-- A problem on a property carries its name and is highlighted there. -/
theorem ofNode_property {data : PropertyData} (property : forest.property? (some id) = some data)
    (fileName message : String) (category : Category) (fixes : List TypeFix)
    : Problem.ofNode forest fileName (some id) message category fixes
      = {
          fileName := fileName
          node := some id
          declarationName := forest.interner.resolve data.name
          span := data.nameSpan
          message := message
          category := category
          fixes := fixes
        } := by
  simp [Problem.ofNode, property, Forest.declarationName?_of_property property]

/-- After every history, an enabled inspection reports each reportable node once and nothing else.
Each problem carries the name and the place of the name of its property, and offers the type that
is known for it, followed by the supertypes unless the settings leave them out.
-/
theorem check_reports_exactly {forest : Forest} (reachable : Reachable Declarable forest)
    (enabled : settings.enabled) (service : TypeService) (root : NodeRef)
    : (∀ id,
        Reportable forest root id
        → ((check settings service forest root).map Problem.node).count (some id) = 1)
      ∧ ∀ problem ∈ check settings service forest root,
          ∃ id data,
            Reportable forest root id
            ∧ forest.property? (some id) = some data
            ∧ problem
              = {
                  fileName := (forest.fileName? root).getD ""
                  node := some id
                  declarationName := forest.interner.resolve data.name
                  span := data.nameSpan
                  message := settings.message.text
                  category := settings.severity.category
                  fixes := (fixTexts settings service (some id)).map TypeFix.mk
                } := by
  obtain ⟨coherent, layered⟩ := Forest.reachable_sound reachable
  constructor
  · intro id reportable
    have unique : ((inspectFile ⟨settings⟩ forest root service).map Problem.node).Nodup :=
      inspectFile_nodes_nodup coherent layered
    have reported : _ ∈ check settings service forest root :=
      (reported_iff coherent layered enabled).mpr ⟨id, reportable, rfl⟩
    exact List.nodup_iff_count_eq_one.mp unique _ (List.mem_map.mpr ⟨_, reported, rfl⟩)
  · intro problem reported
    obtain ⟨id, reportable, rfl⟩ := (reported_iff coherent layered enabled).mp reported
    obtain ⟨data, property, _⟩ := reportable.untyped
    exact ⟨id, data, reportable, property, ofNode_property property ..⟩

/-- On the sample shelf the owner is reported once, and every problem offers both types. -/
theorem shelf_reports_owner
    : Reachable Declarable shelf
      ∧ Reportable shelf (some 0) 4
      ∧ ((check {} idService shelf (some 0)).map Problem.node).count (some 4) = 1
      ∧ ∀ problem ∈ check {} idService shelf (some 0), problem.fixes = [⟨"Id?"⟩, ⟨"Any"⟩] := by
  have file : shelf.parentOf (some 4) = some 0 := by cbv
  have fileKind : shelf.kind? (some 0) = some .sourceFile := by cbv
  have reportable : Reportable shelf (some 0) 4 := {
    untyped := ⟨⟨4, {}, false, none⟩, by cbv, rfl⟩
    placed := by
      rw [file]
      exact Or.inl fileKind
    ascends := ⟨0, rfl, .up (by cbv) file (.arrived (by cbv))⟩
  }
  have enabled : ({} : InspectionSettings).enabled := rfl
  obtain ⟨once, only⟩ := check_reports_exactly shelf_reachable enabled idService (some 0)
  refine ⟨shelf_reachable, reportable, once 4 reportable, fun problem reported => ?_⟩
  obtain ⟨id, data, _, _, rfl⟩ := only problem reported
  rfl

end Inspection

end PropertyLint
