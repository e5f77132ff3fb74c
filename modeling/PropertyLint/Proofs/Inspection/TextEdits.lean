import PropertyLint.Proofs.Forest.Replacement
import PropertyLint.Proofs.Inspection.Report
import PropertyLint.Proofs.Inspection.Staleness
import PropertyLint.Proofs.Text.LineStarts

/-! The two forms of a fix agree.
As a text edit, a fix inserts its type at a line and a column, which are reckoned from the name of
the declaration when the problem is found. In the forest, a fix puts its type behind the name that
the declaration has when the fix is applied. Both mean the same byte, as nothing moves a name and
as positions are exact, and both write the same type.
-/

namespace PropertyLint

open Forest (Declarable Reachable)

/-- The offset of a position in a text, reckoned from the start of its line. -/
def EditPosition.offset? (bytes : List UInt8) (position : EditPosition) : Option Nat :=
  match position.line, position.column with
  | line + 1, column + 1 => (lineStarts bytes)[line]?.map (· + column)
  | _, _ => none

/-- The edit puts a text at an offset of another one, and deletes nothing. -/
structure TextEdit.Inserts (edit : TextEdit) (bytes : List UInt8) (offset : Nat) (text : String)
    : Prop where
  empty : edit.stop = edit.start
  place : edit.start.offset? bytes = some offset
  newText : edit.newText = text

variable {forest before after changed : Forest} {problem : Problem} {fix : TypeFix} {id : NodeId}
  {actions : List Action} {data : PropertyData} {outcome : FixOutcome}

-----------------------------------------------------------------------------------------
-- Positions in edits
-----------------------------------------------------------------------------------------

/-- An edit's position is read back as the offset that it was made from. -/
theorem EditPosition.offset?_ofOffset (bytes : List UInt8) (offset : Nat)
    : (EditPosition.ofOffset (LineMap.ofBytes bytes) offset).offset? bytes = some offset := by
  have start := LineMap.starts_position_line bytes offset
  rw [← Array.getElem?_toList, LineMap.toList_starts] at start
  simp only [EditPosition.ofOffset, EditPosition.ofPosition, EditPosition.offset?, start,
    Option.map_some, LineMap.lastLineStart_add_column]

/-- Line and column exceed an offset by one at most, so that they fit wherever offsets do. -/
theorem EditPosition.ofOffset_le (bytes : List UInt8) (offset : Nat)
    : let position := EditPosition.ofOffset (LineMap.ofBytes bytes) offset
      position.line ≤ offset + 1 ∧ position.column ≤ offset + 1 := by
  intro position
  have line := LineMap.position_line bytes offset
  have passed : (bytes.take offset).count lineFeed ≤ offset :=
    Nat.le_trans List.count_le_length (List.length_take_le offset bytes)
  have column := LineMap.lastLineStart_add_column bytes offset
  simp only [position, EditPosition.ofOffset, EditPosition.ofPosition]
  omega

/-- As a text edit, a fix is an insertion behind the name. -/
theorem TypeFix.codeFix_inserts (fix : TypeFix) (fileName source : String) (nameSpan : Span)
    : ∃ edit,
        (fix.codeFix fileName nameSpan (LineMap.ofText source)).changes = [⟨fileName, [edit]⟩]
        ∧ edit.Inserts source.toUTF8.data.toList nameSpan.stop (": " ++ fix.typeText)
        ∧ edit.start.line ≤ nameSpan.stop + 1
        ∧ edit.start.column ≤ nameSpan.stop + 1 := by
  obtain ⟨line, column⟩ := EditPosition.ofOffset_le source.toUTF8.data.toList nameSpan.stop
  refine ⟨_, rfl, ⟨rfl, ?_, rfl⟩, line, column⟩
  exact EditPosition.offset?_ofOffset source.toUTF8.data.toList nameSpan.stop

-----------------------------------------------------------------------------------------
-- Places in the forest
-----------------------------------------------------------------------------------------

/-- Whatever callers do, a declaration that is still there has its name where it was: it has not
been removed, and neither has a node above it.
-/
theorem Acted.nameSpan_eq (acted : Acted before actions after) (coherent : before.Coherent)
    (layered : before.Layered) (property : before.property? (some id) = some data)
    {later : PropertyData} (laterProperty : after.property? (some id) = some later)
    : later.nameSpan = data.nameSpan := by
  have standing := Forest.standing_of_isDeclaration (Forest.isDeclaration_of_property property)
  obtain ⟨_, _, names⟩ := acted.preserves coherent layered
  have spared : ∀ ancestor, before.Above ancestor id → Action.remove ancestor ∉ actions := by
    intro ancestor above member
    have removed := acted.removed coherent layered standing ⟨ancestor, above, member⟩
    have declaration := Forest.isDeclaration_of_property laterProperty
    simp [Forest.isDeclaration, removed] at declaration
  have line := acted.sameLine coherent layered standing spared
  have spans := (line.sameDeclaration coherent.named names property).nameSpan
  simpa [property, laterProperty] using spans

/-- A fix that attaches a type puts it into the slot of the declaration and behind its name. -/
theorem TypeFix.apply_placed (coherent : forest.Coherent) (layered : forest.Layered)
    {typeRef : NodeId} (applied : fix.apply problem forest = (.ok (.applied typeRef), after))
    : ∃ id data,
        problem.node = some id
        ∧ forest.property? (some id) = some data
        ∧ after.property? (some id) = some { data with typeSlot := some typeRef }
        ∧ (after.node? (some typeRef)).map Node.span = some (.point data.nameSpan.stop) := by
  obtain ⟨id, expr, found, _, ⟨other, _⟩ | ⟨made, changed⟩⟩ := apply_ok_cases applied
  · cases other
  · obtain rfl := FixOutcome.applied.inj made
    obtain ⟨node, data, property⟩ := Problem.declaration?_eq_some found
    have added := (Forest.addType_added coherent expr).1
    have grownLayered := added.grown.layered coherent.linked layered
    have attaches := coherent.attaches_addType property expr
    rw [attaches.attachType] at changed
    obtain ⟨_, _, placed⟩ := attaches.placed added.coherent grownLayered
    refine ⟨id, data, node, property, ?_, ?_⟩
    · rw [changed]
      exact attaches.property?_filled added.coherent grownLayered
    · rw [changed, Forest.node?, Option.bind_some, placed, Option.map_some]

/-- After a fix has succeeded, the declaration's type is spelled as what its text is read as. -/
theorem TypeFix.apply_spelled (coherent : forest.Coherent) (layered : forest.Layered)
    (applied : fix.apply problem forest = (.ok outcome, after))
    : ∃ expr,
        TypeExpr.parse fix.typeText = .ok expr
        ∧ after.propertyTypeText? problem.node = some expr.spelling := by
  obtain ⟨id, expr, found, valid, written⟩ := apply_ok coherent layered applied
  obtain ⟨node, _⟩ := Problem.declaration?_eq_some found
  refine ⟨expr, valid, ?_⟩
  rw [node]
  rcases written with ⟨rfl, present⟩ | annotates
  · exact present
  · exact annotates.carries.propertyTypeText? annotates.coherent

-----------------------------------------------------------------------------------------
-- Both forms of the fixes of a problem
-----------------------------------------------------------------------------------------

/-- What has been reported is a property, highlighted at its name. -/
theorem Inspection.reported_property {settings : InspectionSettings} {service : TypeService}
    {root : NodeRef} (reported : problem ∈ check settings service forest root)
    : ∃ id data,
        problem.node = some id
        ∧ forest.property? (some id) = some data
        ∧ problem.span = data.nameSpan := by
  have listed : problem ∈ inspectFile ⟨settings⟩ forest root service := reported
  obtain ⟨id, node, flagged⟩ := flagged_of_mem_inspectFile listed
  obtain ⟨eligible, same⟩ := visit_eq_some_iff.mp flagged
  obtain ⟨data, property, _⟩ := isEligible_iff.mp eligible
  rw [ofNode_property property] at same
  exact ⟨id, data, node, property, (congrArg Problem.span same).symm⟩

/-- Whatever the source text is, each fix of a reported problem, as a text edit, inserts its type at
the offset at which the name of the declaration ends. Line and column, counted from one, exceed that
offset by one at most. Whatever has happened to the forest since the report, if the fix attaches a
type there, that type is in the slot of the declaration and stands at the same offset; and if the
fix succeeds at all, the inserted text is read as a type, and the declaration is then printed with
the spelling of that type.
-/
theorem text_edits_agree_with_fixes {forest : Forest} (reachable : Reachable Declarable forest)
    {settings : InspectionSettings} {service : TypeService} {root : NodeRef}
    (reported : problem ∈ Inspection.check settings service forest root) (source : String)
    : ∃ id data,
        problem.node = some id
        ∧ forest.property? (some id) = some data
        ∧ (problem.codeFixes (LineMap.ofText source)).length = problem.fixes.length
        ∧ ∀ index fix,
            problem.fixes[index]? = some fix
            → ∃ codeFix edit,
                (problem.codeFixes (LineMap.ofText source))[index]? = some codeFix
                ∧ codeFix.changes = [⟨problem.fileName, [edit]⟩]
                ∧ edit.Inserts source.toUTF8.data.toList data.nameSpan.stop (": " ++ fix.typeText)
                ∧ edit.start.line ≤ data.nameSpan.stop + 1
                ∧ edit.start.column ≤ data.nameSpan.stop + 1
                ∧ ∀ actions after outcome changed,
                    Acted forest actions after
                    → problem.applyFix index after = (.ok outcome, changed)
                    → (∃ expr,
                        TypeExpr.parse fix.typeText = .ok expr
                        ∧ changed.propertyTypeText? problem.node = some expr.spelling)
                      ∧ ∀ typeRef,
                          outcome = .applied typeRef
                          → (changed.property? problem.node).bind PropertyData.typeSlot
                              = some typeRef
                            ∧ (changed.node? (some typeRef)).map Node.span
                              = some (.point data.nameSpan.stop) := by
  obtain ⟨coherent, layered⟩ := Forest.reachable_sound reachable
  obtain ⟨id, data, node, property, span⟩ := Inspection.reported_property reported
  refine ⟨id, data, node, property, List.length_map _, fun index fix listed => ?_⟩
  obtain ⟨edit, changes, inserts, line, column⟩ :=
    fix.codeFix_inserts problem.fileName source data.nameSpan
  refine ⟨_, edit, ?_, changes, inserts, line, column, ?_⟩
  · rw [Problem.codeFixes, List.getElem?_map, listed, Option.map_some, span]
  · intro actions after outcome changed acted applied
    obtain ⟨afterCoherent, afterLayered, _⟩ := acted.preserves coherent layered
    have attempt : fix.apply problem after = (.ok outcome, changed) := by
      simpa only [Problem.applyFix, listed] using applied
    refine ⟨fix.apply_spelled afterCoherent afterLayered attempt, ?_⟩
    rintro typeRef rfl
    obtain ⟨other, later, otherNode, laterProperty, slot, place⟩ :=
      fix.apply_placed afterCoherent afterLayered attempt
    obtain rfl := Option.some.inj (node.symm.trans otherNode)
    have spans := acted.nameSpan_eq coherent layered property laterProperty
    rw [node, slot, place, spans]
    exact ⟨rfl, rfl⟩

/-- A file with two properties, each on a line of its own. -/
def draft : Forest :=
  [.addSourceFile "Draft.kt" ⟨0, 28⟩, .addProperty (some 0) "title" false ⟨0, 13⟩ ⟨4, 9⟩,
    .addProperty (some 0) "owner" true ⟨14, 27⟩ ⟨18, 23⟩].foldl Edit.apply .empty

/-- The text of the file. -/
def draftText : String := "val title = 1\nvar owner = 2\n"

/-- The problem on the second property. -/
def draftOwner : Problem :=
  { untyped 2 "owner" with fileName := "Draft.kt", span := ⟨18, 23⟩ }

theorem draft_reachable : Reachable Declarable draft := by
  have file : Reachable Declarable (Forest.empty.addSourceFile "Draft.kt" ⟨0, 28⟩).2 :=
    .step .refl (.addSourceFile "Draft.kt" ⟨0, 28⟩) Forest.declarable_none
  have title := file.step (.addProperty (some 0) "title" false ⟨0, 13⟩ ⟨4, 9⟩)
    (Forest.declarable_some (by cbv) (by cbv))
  exact title.step (.addProperty (some 0) "owner" true ⟨14, 27⟩ ⟨18, 23⟩)
    (Forest.declarable_some (by cbv) (by cbv))

/-- The draft after the owner has got a type and the other property has been removed. -/
def redraft : Forest :=
  [Action.edit (.addType (.named ["Int"] [] false)), .edit (.attachType (some 2) (some 3)),
    .remove 1].foldl Action.apply draft

set_option maxRecDepth 10000 in
/-- In the draft, the second fix for the owner is an insertion into the second line, before the
tenth byte, which is byte 23 of the text. In the changed draft the same fix replaces the type of the
owner, and still puts the new one there.
-/
theorem draft_owner_fix_agrees
    : let changed := (draftOwner.applyFix 1 redraft).2
      Reachable Declarable draft
        ∧ draftOwner ∈ Inspection.check {} idService draft (some 0)
        ∧ ((draftOwner.codeFixes (LineMap.ofText draftText))[1]?).map CodeFix.changes
          = some [⟨"Draft.kt", [⟨⟨2, 10⟩, ⟨2, 10⟩, ": Any"⟩]⟩]
        ∧ (⟨2, 10⟩ : EditPosition).offset? draftText.toUTF8.data.toList = some 23
        ∧ redraft.propertyTypeText? (some 2) = some "Int"
        ∧ draftOwner.applyFix 1 redraft = (.ok (.applied 4), changed)
        ∧ changed.propertyTypeText? (some 2) = some "Any"
        ∧ (changed.node? (some 4)).map Node.span = some (.point 23) := by
  intro changed
  have acted : Acted draft _ redraft :=
    ((Acted.start.step (.edit (.addType (.named ["Int"] [] false))) Forest.declarable_none).step
      (.edit (.attachType (some 2) (some 3))) Forest.declarable_none).step (.remove 1)
        Forest.declarable_none
  have reported : draftOwner ∈ Inspection.check {} idService draft (some 0) := by
    have listed : draft.properties (some 0) = [1, 2] := by with_unfolding_all rfl
    have title : Inspection.isEligible draft (some 1) = true := by with_unfolding_all rfl
    have owner : Inspection.isEligible draft (some 2) = true := by with_unfolding_all rfl
    have second : (Inspection.check {} idService draft (some 0))[1]? = some draftOwner := by
      simp only [Inspection.check, listed, Inspection.visit, title, owner, List.filterMap, if_true]
      cbv
    exact List.mem_of_getElem? second
  have written : redraft.propertyTypeText? (some 2) = some "Int" := by cbv
  have property : draft.property? (some 2) = some ⟨2, ⟨18, 23⟩, true, none⟩ := by cbv
  have listed : draftOwner.fixes[1]? = some ⟨"Any"⟩ := rfl
  have any : TypeExpr.parse "Any" = .ok (.named ["Any"] [] false) := by with_unfolding_all rfl
  have applied : draftOwner.applyFix 1 redraft = (.ok (.applied 4), changed) := by
    have found : draftOwner.declaration? redraft = some 2 := by cbv
    have outcome : (draftOwner.applyFix 1 redraft).1 = .ok (.applied 4) := by
      simp only [Problem.applyFix, listed, TypeFix.apply, found, any, written]
      rw [if_neg (by decide)]
      with_unfolding_all rfl
    exact Prod.ext outcome rfl
  have place : EditPosition.ofOffset (LineMap.ofText draftText) 23 = ⟨2, 10⟩ := by
    with_unfolding_all rfl
  have made : ((draftOwner.codeFixes (LineMap.ofText draftText))[1]?).map CodeFix.changes
      = some [⟨"Draft.kt", [⟨⟨2, 10⟩, ⟨2, 10⟩, ": Any"⟩]⟩] := by
    simp [Problem.codeFixes, TypeFix.codeFix, draftOwner, untyped, place]
  obtain ⟨id, data, node, found, _, agree⟩ :=
    text_edits_agree_with_fixes draft_reachable reported draftText
  obtain rfl := Option.some.inj node
  obtain rfl := Option.some.inj (property.symm.trans found)
  obtain ⟨codeFix, edit, given, changes, inserts, _, _, history⟩ := agree 1 _ listed
  obtain ⟨⟨expr, read, spelled⟩, attached⟩ := history _ redraft _ changed acted applied
  obtain ⟨_, span⟩ := attached 4 rfl
  obtain rfl := Except.ok.inj (any.symm.trans read)
  have same : edit = ⟨⟨2, 10⟩, ⟨2, 10⟩, ": Any"⟩ := by
    rw [given, Option.map_some, changes] at made
    simpa [draftOwner] using made
  have placed := inserts.place
  rw [same] at placed
  exact ⟨draft_reachable, reported, made, placed, written, applied, spelled, span⟩

end PropertyLint
