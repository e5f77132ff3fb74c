import PropertyLint.Proofs.Forest.FreshAttachment
import PropertyLint.Proofs.Inspection.FixRuns
import PropertyLint.Proofs.TypeTable.Spelling

/-! The texts that are offered for a type can be inserted.
A type of a sealed table whose names could be written is spelled as a text that is read back as the
same type, up to the nesting limit. A fix that offers such a text is applied to the forest in which
the problem was found, and the text then stands behind the property's name.
-/

namespace PropertyLint

open Forest (ParentRule Reachable)
open Inspection

variable {forest : Forest} {problem : Problem} {fix : TypeFix} {id : NodeId}

/-- A property without a type takes the type that a fix inserts, in any forest that callers can
make.
-/
theorem TypeFix.apply_untyped (consistent : forest.interner.Consistent)
    (declared : problem.declaration? forest = some id) {data : PropertyData}
    (property : forest.property? (some id) = some data) (untyped : data.typeSlot = none)
    {expr : TypeExpr} (valid : TypeExpr.parse fix.typeText = .ok expr)
    : ∃ typeRef after,
        fix.apply problem forest = (.ok (.applied typeRef), after)
        ∧ after.propertyTypeText? (some id) = some expr.spelling := by
  obtain ⟨after, attached, text⟩ :=
    Forest.attachType_addType_untyped consistent property untyped expr
  have absent : forest.propertyTypeText? (some id) = none := by
    simp [Forest.propertyTypeText?, property, untyped, Forest.typeText?, Forest.typeTextWithin,
      Forest.typeReference?]
  refine ⟨(forest.addType expr).1, after, ?_, text⟩
  simp [apply, declared, valid, absent, attached, Forest.Attachment.isDone]

/-- The type that is known for a declaration is offered first, whether or not its supertypes are
offered too.
-/
theorem Inspection.offered_head (settings : InspectionSettings) {service : TypeService}
    {node : NodeRef} {type : TypeId} (known : service.declarationType? node = some type)
    : ∃ others, offered settings service node = service.display type :: others := by
  unfold offered
  rw [known]
  dsimp only
  split
  · exact ⟨_, rfl⟩
  · exact ⟨[], rfl⟩

/-- The first fix of a problem inserts the type that is known for the declaration, if its text is
read as a type that is spelled so.
-/
theorem first_fix_inserts {rule : ParentRule} {settings : InspectionSettings}
    {service : TypeService} {root : NodeRef} (history : Reachable rule forest)
    (reported : problem ∈ check settings service forest root) {type : TypeId}
    (known : service.declarationType? problem.node = some type) {expr : TypeExpr}
    (valid : TypeExpr.parse (service.display type) = .ok expr)
    (spelled : service.display type = expr.spelling)
    : ∃ typeRef after,
        problem.fixes[0]? = some ⟨service.display type⟩
        ∧ problem.applyFix 0 forest = (.ok (.applied typeRef), after)
        ∧ after.propertyTypeText? problem.node = some (service.display type) := by
  have consistent := Forest.Edited.consistent history Interner.empty_consistent
  have listed : problem ∈ inspectFile ⟨settings⟩ forest root service := reported
  obtain ⟨id, node, flagged⟩ := flagged_of_mem_inspectFile listed
  obtain ⟨eligible, made⟩ := visit_eq_some_iff.mp flagged
  obtain ⟨data, property, untyped, _⟩ := isEligible_iff.mp eligible
  have declared := declaration?_eq flagged property rfl rfl
  obtain ⟨others, offers⟩ := offered_head settings (node ▸ known)
  have first : problem.fixes[0]? = some ⟨service.display type⟩ := by
    rw [← made]
    simp [Problem.ofNode, offers]
  have readable : TypeExpr.parse (TypeFix.mk (service.display type)).typeText = .ok expr := valid
  obtain ⟨typeRef, after, applied, written⟩ :=
    TypeFix.apply_untyped consistent declared property untyped readable
  refine ⟨typeRef, after, first, ?_, ?_⟩
  · rw [Problem.applyFix, first]
    exact applied
  · rw [node, written, spelled]

/-- Every type of a sealed table whose class names can be written is spelled as before sealing. The
spelling is read as a type exactly when its arguments nest within the limit, and then it is read as
the type's own tree, whose spelling it is. The first fix of a problem for which such a type is known
is applied to any forest in which the problem was found, and inserts exactly its text.
-/
theorem suggested_text_reads_back {table : TypeTable} (reachable : TypeTable.Reachable table)
    {type : TypeId} {tree : TypeTree} (denotes : table.seal.table.Denotes type tree)
    (named : tree.WellNamed)
    : let text := table.seal.service.display type
      (type < table.size → table.display type = text)
        ∧ ((∃ expr, TypeExpr.parse text = .ok expr) ↔ tree.expr.nesting ≤ maxTypeNesting)
        ∧ (tree.expr.nesting ≤ maxTypeNesting
            → TypeExpr.parse text = .ok tree.expr
              ∧ tree.expr.spelling = text
              ∧ ∀ (rule : ParentRule) (forest : Forest) (settings : InspectionSettings)
                  (root : NodeRef) (problem : Problem),
                  Reachable rule forest
                  → problem ∈ check settings table.seal.service forest root
                  → table.declarationTypes[problem.node]? = some type
                  → ∃ typeRef after,
                      problem.fixes[0]? = some ⟨text⟩
                      ∧ problem.applyFix 0 forest = (.ok (.applied typeRef), after)
                      ∧ after.propertyTypeText? problem.node = some text) := by
  intro text
  have sound := reachable.sound
  have interns := sound.sealed.1
  have spelled : text = tree.expr.spelling := denotes.display_eq interns.sound
  have wellNamed := named.expr
  have noStar := tree.expr_ne_star
  refine ⟨fun known => ?_, ?_, fun shallow => ?_⟩
  · obtain ⟨early, earlyDenotes⟩ := sound.exists_denotes known
    have same := (earlyDenotes.grow sound interns.grown).unique denotes
    rw [earlyDenotes.display_eq sound, same, spelled]
  · rw [spelled]
    exact wellNamed.parse_spelling_isOk_iff noStar
  have valid : TypeExpr.parse text = .ok tree.expr := by
    rw [spelled]
    exact wellNamed.parse_spelling noStar shallow
  refine ⟨valid, spelled.symm, ?_⟩
  intro rule forest settings root problem history reported known
  have recorded : table.seal.service.declarationType? problem.node = some type := by
    rw [← known, ← interns.declarationTypes]
    rfl
  exact first_fix_inserts history reported recorded valid spelled

/-- A table that knows lists of nullable numbers as the type of the sample shelf's owner. -/
def catalog : TypeTable :=
  [.classType "Int" [],
    .nullable 0,
    .classType "kotlin.List" [1],
    .recordDeclarationType (some 4) 2].foldl TableCall.apply .empty

theorem catalog_reachable : TypeTable.Reachable catalog := by
  have first := TypeTable.Reachable.empty.step (.classType "Int" [])
    (by simp [TableCall.Allowed, TableCall.arguments])
  have second := first.step (.nullable 0) (by simp [TableCall.Allowed, TableCall.arguments])
  refine (second.step (.classType "kotlin.List" [1]) ?_).step (.recordDeclarationType (some 4) 2)
    (by simp [TableCall.Allowed, TableCall.arguments])
  intro argument member
  obtain rfl := List.mem_singleton.mp member
  cbv

/-- The type that the sample table knows for the owner. -/
def ownerType : TypeTree :=
  .applied "kotlin.List" [.applied "Int" [] true] false

/-- On the sample shelf the owner gets a list of nullable numbers, whose text is read as that type.
-/
theorem catalog_text_reads_back
    : TypeTable.Reachable catalog
      ∧ catalog.seal.service.display 2 = "kotlin.List<Int?>"
      ∧ catalog.seal.table.Denotes 2 ownerType
      ∧ ownerType.WellNamed
      ∧ TypeExpr.parse "kotlin.List<Int?>" = .ok ownerType.expr
      ∧ Reachable Forest.Declarable shelf
      ∧ ∃ problem ∈ check {} catalog.seal.service shelf (some 0),
          problem.node = some 4
          ∧ ∃ typeRef after,
              problem.applyFix 0 shelf = (.ok (.applied typeRef), after)
              ∧ after.propertyTypeText? (some 4) = some "kotlin.List<Int?>" := by
  have text : catalog.seal.service.display 2 = "kotlin.List<Int?>" := by cbv
  have numberName : catalog.seal.table.interner.resolve 2 = "Int" := by cbv
  have listName : catalog.seal.table.interner.resolve 3 = "kotlin.List" := by cbv
  have numberFound : catalog.seal.table.get? 1 = some ⟨2, [], true⟩ := by cbv
  have listFound : catalog.seal.table.get? 2 = some ⟨3, [1], false⟩ := by cbv
  have number : catalog.seal.table.Denotes 1 (.applied "Int" [] true) :=
    numberName ▸ .applied numberFound .nil
  have whole : catalog.seal.table.Denotes 2 ownerType := by
    rw [ownerType, ← listName]
    exact .applied listFound (.cons number .nil)
  have named : ownerType.WellNamed := by
    simp only [ownerType, TypeTree.WellNamed, TypeTree.AllWellNamed, and_true]
    exact ⟨⟨["kotlin", "List"], by decide +kernel, rfl⟩, ["Int"], by decide +kernel, rfl⟩
  obtain ⟨_, _, reads⟩ := suggested_text_reads_back catalog_reachable whole named
  rw [text] at reads
  obtain ⟨parsed, _, fixes⟩ := reads (by cbv)
  have reported : check {} catalog.seal.service shelf (some 0)
      = [{ untyped 4 "owner" with fixes := [⟨"kotlin.List<Int?>"⟩] },
          { untyped 5 "size" with fixes := [⟨"null"⟩] }] := by
    rw [shelf_check]
    cbv
  have owner : { untyped 4 "owner" with fixes := [⟨"kotlin.List<Int?>"⟩] }
      ∈ check {} catalog.seal.service shelf (some 0) := by
    rw [reported]
    exact List.mem_cons_self
  have known : catalog.declarationTypes[(some 4 : NodeRef)]? = some 2 := by cbv
  obtain ⟨typeRef, after, _, applied, written⟩ :=
    fixes Forest.Declarable shelf {} (some 0) _ shelf_reachable owner known
  exact ⟨catalog_reachable, text, whole, named, parsed, shelf_reachable, _, owner, rfl, typeRef,
    after, applied, written⟩

end PropertyLint
