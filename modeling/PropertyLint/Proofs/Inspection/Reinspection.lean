import PropertyLint.Inspection.Check
import PropertyLint.Proofs.Forest.WrittenTypes

/-! Inspecting a forest again after types have been written.
The inspection reads the outline and the slots. Where the outline is the same it walks over the
same properties, and a property with the same slot gets the same verdict.
-/

namespace PropertyLint

namespace Inspection

variable {settings : InspectionSettings} {service : TypeService} {forest before after : Forest}
  {fileName : String} {node : NodeRef} {root : NodeRef} {problem : Problem}

theorem isEligible_iff
    : isEligible forest node
      ↔ ∃ data,
          forest.property? node = some data
          ∧ data.typeSlot = none
          ∧ (forest.scope? node = some .topLevel ∨ forest.scope? node = some .member) := by
  unfold isEligible
  cases forest.property? node <;> simp

/-- A flagged node is an eligible property, and the problem is the one on it. -/
theorem visit_eq_some_iff
    : visit settings service forest fileName node = some problem
      ↔ isEligible forest node
        ∧ .ofNode forest fileName node settings.message.text settings.severity.category
            ((offered settings service node).map TypeFix.mk) = problem := by
  simp [visit]

theorem visit_node (flagged : visit settings service forest fileName node = some problem)
    : problem.node = node ∧ problem.fileName = fileName := by
  obtain ⟨_, rfl⟩ := visit_eq_some_iff.mp flagged
  exact ⟨rfl, rfl⟩

/-- A property with a type in its slot is not flagged. -/
theorem visit_typed {data : PropertyData} {type : NodeId}
    (property : forest.property? node = some data) (filled : data.typeSlot = some type)
    : visit settings service forest fileName node = none := by
  simp [visit, isEligible, property, filled]

/-- The declaration that a problem flags is found again while it is a property with the same scope
and the same name.
-/
theorem declaration?_eq (flagged : visit settings service before fileName node = some problem)
    {data : PropertyData} (property : after.property? node = some data)
    (scope : after.scope? node = before.scope? node)
    (names : after.declarationName? node = before.declarationName? node)
    : problem.declaration? after = node := by
  obtain ⟨eligible, rfl⟩ := visit_eq_some_iff.mp flagged
  obtain ⟨old, found, _, place⟩ := isEligible_iff.mp eligible
  have placed : (after.scope? node).isSome := by
    rw [scope]
    rcases place with place | place <;> simp [place]
  have named := Forest.declarationName?_of_property found
  simp [Problem.declaration?, Problem.ofNode, property, placed, names.trans named, named]

section Outline

variable (same : Forest.SameOutline before after) (coherent : before.Coherent)
  (layered : before.Layered)

include same coherent layered

/-- A property that is the same in both forests gets the same verdict in both. -/
theorem visit_same (property : after.property? node = before.property? node)
    : visit settings service after fileName node = visit settings service before fileName node := by
  have eligible : isEligible after node = isEligible before node := by
    simp only [isEligible, property, same.scope? coherent layered]
  unfold visit
  rw [eligible]
  split
  · rename_i found
    obtain ⟨data, found, _⟩ := isEligible_iff.mp found
    have names := same.declarationName? coherent found
    simp [Problem.ofNode, property, found, names]
  · rfl

/-- The declaration that a problem flags is found again while it is the same property. -/
theorem declaration?_same (flagged : visit settings service before fileName node = some problem)
    {data : PropertyData} (property : after.property? node = some data)
    : problem.declaration? after = node := by
  obtain ⟨old, found, _⟩ := isEligible_iff.mp (visit_eq_some_iff.mp flagged).1
  exact declaration?_eq flagged property (same.scope? coherent layered node)
    (same.declarationName? coherent found)

end Outline

end Inspection

open Inspection

variable {settings : Settings} {service : TypeService} {forest before after : Forest}
  {root : NodeRef} {problem : Problem}

/-- Every reported problem comes from the visit of a property below the root. -/
theorem flagged_of_mem_inspectFile (member : problem ∈ inspectFile settings forest root service)
    : ∃ id,
        problem.node = some id
        ∧ visit settings.propertyType service forest problem.fileName (some id) = some problem := by
  unfold inspectFile check at member
  dsimp only at member
  split at member
  · obtain ⟨id, _, flagged⟩ := List.mem_filterMap.mp member
    obtain ⟨node, fileName⟩ := visit_node flagged
    exact ⟨id, node, fileName ▸ flagged⟩
  · cases member

/-- No node is flagged twice. -/
theorem inspectFile_nodes_nodup (coherent : forest.Coherent) (layered : forest.Layered)
    : ((inspectFile settings forest root service).map Problem.node).Nodup := by
  unfold inspectFile check
  dsimp only
  split
  · rw [List.map_filterMap]
    refine (coherent.walk_properties layered root).2.filterMap fun first second node one two => ?_
    obtain ⟨problem, flagged, rfl⟩ := Option.map_eq_some_iff.mp one
    obtain ⟨other, otherFlagged, same⟩ := Option.map_eq_some_iff.mp two
    rw [(visit_node flagged).1, (visit_node otherFlagged).1] at same
    exact (Option.some.inj same).symm
  · exact .nil

/-- The file is inspected anew by visiting the flagged nodes again, when the other properties are
the same as before.
-/
theorem reinspect (same : Forest.SameOutline before after) (coherent : before.Coherent)
    (layered : before.Layered) (afterCoherent : after.Coherent) (afterLayered : after.Layered)
    (others
      : ∀ id,
          (∀ problem ∈ inspectFile settings before root service, problem.node ≠ some id)
          → after.property? (some id) = before.property? (some id))
    : inspectFile settings after root service
      = (inspectFile settings before root service).filterMap fun problem =>
          visit settings.propertyType service after problem.fileName problem.node := by
  have properties := same.properties coherent layered afterCoherent afterLayered root
  have fileNames (id : NodeId) (listed : id ∈ before.properties root)
      : after.fileName? root = before.fileName? root := by
    cases root with
    | none => simp [Forest.properties, Forest.propertiesFrom] at listed
    | some root =>
        cases declared : before.isDeclaration root with
        | true => exact same.fileName? coherent layered afterCoherent afterLayered declared
        | false => simp [coherent.properties_of_leaf layered declared] at listed
  unfold inspectFile check at others ⊢
  dsimp only at others ⊢
  split
  · rename_i enabled
    rw [if_pos enabled] at others
    rw [properties, List.filterMap_filterMap]
    refine List.filterMap_congr fun id listed => ?_
    rw [fileNames id listed]
    cases flagged : visit settings.propertyType service before ((before.fileName? root).getD "")
        (some id) with
    | some problem =>
        obtain ⟨node, fileName⟩ := visit_node flagged
        simp [node, fileName]
    | none =>
        have unflagged := others id fun problem member node => by
          obtain ⟨other, _, otherFlagged⟩ := List.mem_filterMap.mp member
          rw [(visit_node otherFlagged).1] at node
          rw [Option.some.inj node, flagged] at otherFlagged
          cases otherFlagged
        rw [visit_same same coherent layered unflagged, flagged]
        rfl
  · rfl

end PropertyLint
