import Mathlib.Data.List.Induction
import PropertyLint.Inspection.Fix
import PropertyLint.Proofs.Inspection.Reinspection

/-! Whole runs of fixes on the problems of one inspection.
Whatever calls are made in whatever order, each flagged property ends with the type of the last
call that could be made on its problem, and a second inspection reports the other problems as the
first one did.
-/

namespace PropertyLint

open Forest (Annotates Declarable Edited Reachable SameOutline)
open Inspection

/-- A call on a list of problems: which problem, and which of its fixes. -/
structure FixCall where
  problem : Nat
  fix : Nat
deriving DecidableEq, Repr

/-- A forest under repair, with the indices of the problems on which a call has succeeded. -/
structure FixRun where
  forest : Forest
  mended : List Nat

/-- Makes a call. There is nothing to call where the list has no problem. -/
def FixRun.step (problems : List Problem) (run : FixRun) (call : FixCall) : FixRun :=
  match problems[call.problem]? with
  | none => run
  | some problem =>
    match problem.applyFix call.fix run.forest with
    | (.ok _, forest) => ⟨forest, call.problem :: run.mended⟩
    | (.error _, forest) => { run with forest }

/-- Makes calls one after another. -/
def FixRun.ofCalls (problems : List Problem) (forest : Forest) (calls : List FixCall) : FixRun :=
  calls.foldl (FixRun.step problems) ⟨forest, []⟩

/-- The type that a call asks for, if it names a fix and the text of that fix is a type. -/
def FixCall.type? (problems : List Problem) (call : FixCall) : Option TypeExpr := do
  let problem ← problems[call.problem]?
  let fix ← problem.fixes[call.fix]?
  (TypeExpr.parse fix.typeText).toOption

/-- The type that the last effective call on the problem at an index asks for. -/
def lastType? (problems : List Problem) (index : Nat) (calls : List FixCall) : Option TypeExpr :=
  (calls.filterMap fun call => if call.problem = index then call.type? problems else none).getLast?

variable {problems : List Problem} {forest before after : Forest} {problem : Problem}
  {calls : List FixCall} {call : FixCall} {run : FixRun} {id : NodeId}

theorem lastType?_append (index : Nat)
    : lastType? problems index (calls ++ [call])
      = (if call.problem = index then call.type? problems else none).or
          (lastType? problems index calls) := by
  unfold lastType?
  rw [List.filterMap_append, List.getLast?_append]
  congr 1
  cases asked : if call.problem = index then call.type? problems else none <;> simp [asked]

-----------------------------------------------------------------------------------------
-- A fix either leaves the forest alone or writes its type
-----------------------------------------------------------------------------------------

section Apply

variable {fix : TypeFix}

theorem Problem.declaration?_eq_some (found : problem.declaration? forest = some id)
    : problem.node = some id ∧ ∃ data, forest.property? (some id) = some data := by
  unfold Problem.declaration? at found
  split at found
  · rename_i lasting
    rw [found] at lasting
    exact ⟨found, Option.isSome_iff_exists.mp lasting.1⟩
  · cases found

/-- A text that is no type leaves the forest as it is. -/
theorem TypeFix.apply_invalid (found : problem.declaration? forest = some id)
    {source : TypeParseError} (invalid : TypeExpr.parse fix.typeText = .error source)
    : fix.apply problem forest = (.error (.invalidType fix.typeText source), forest) := by
  simp [apply, found, invalid]

/-- A fix whose type is written already changes nothing. -/
theorem TypeFix.apply_present {expr : TypeExpr} (found : problem.declaration? forest = some id)
    (valid : TypeExpr.parse fix.typeText = .ok expr)
    (present : forest.propertyTypeText? (some id) = some expr.spelling)
    : fix.apply problem forest = (.ok .alreadyPresent, forest) := by
  simp [apply, found, valid, present]

/-- A text that is a type becomes the written type of the declaration. A property that carries the
type already is left as it is.
-/
theorem TypeFix.apply_valid (coherent : forest.Coherent) (layered : forest.Layered)
    (found : problem.declaration? forest = some id) {text : Option String}
    (carries : forest.Carries id text) {expr : TypeExpr}
    (valid : TypeExpr.parse fix.typeText = .ok expr)
    : ∃ outcome after,
        fix.apply problem forest = (.ok outcome, after) ∧ Annotates forest after id expr := by
  by_cases present : forest.propertyTypeText? (some id) = some expr.spelling
  · refine ⟨.alreadyPresent, forest, apply_present found valid present, ?_⟩
    rw [carries.propertyTypeText? coherent] at present
    exact {
      coherent := coherent
      layered := layered
      outline := .refl forest
      carries := present ▸ carries
      property?_other := fun _ _ => rfl
      carries_other := fun _ _ _ carries => carries
    }
  · obtain ⟨data, property⟩ := carries.exists_property
    obtain ⟨after, attached, annotates⟩ := coherent.annotates layered property expr
    refine ⟨.applied (forest.addType expr).1, after, ?_, annotates⟩
    simp [apply, found, valid, present, attached, Forest.Attachment.isDone]

/-- A successful fix has found the declaration and read the text. It either found the type written
already, or has added and attached it.
-/
theorem TypeFix.apply_ok_cases {outcome : FixOutcome}
    (applied : fix.apply problem forest = (.ok outcome, after))
    : ∃ id expr,
        problem.declaration? forest = some id
        ∧ TypeExpr.parse fix.typeText = .ok expr
        ∧ (outcome = .alreadyPresent
            ∧ after = forest
            ∧ forest.propertyTypeText? (some id) = some expr.spelling
          ∨ outcome = .applied (forest.addType expr).1
            ∧ after
              = ((forest.addType expr).2.attachType (some id) (some (forest.addType expr).1)).2) := by
  unfold apply at applied
  split at applied
  · cases applied
  · rename_i id found
    split at applied
    · cases applied
    · rename_i expr valid
      refine ⟨id, expr, found, valid, ?_⟩
      split at applied
      · rename_i present
        cases applied
        exact Or.inl ⟨rfl, rfl, present⟩
      · dsimp only at applied
        split at applied
        · cases applied
          exact Or.inr ⟨rfl, rfl⟩
        · cases applied

/-- What a successful fix has attached is the type of the declaration, and all else is as before. -/
theorem TypeFix.apply_ok (coherent : forest.Coherent) (layered : forest.Layered)
    {outcome : FixOutcome} (applied : fix.apply problem forest = (.ok outcome, after))
    : ∃ id expr,
        problem.declaration? forest = some id
        ∧ TypeExpr.parse fix.typeText = .ok expr
        ∧ (after = forest ∧ forest.propertyTypeText? (some id) = some expr.spelling
          ∨ Annotates forest after id expr) := by
  obtain ⟨id, expr, found, valid, ⟨_, same, present⟩ | ⟨_, attempted⟩⟩ := apply_ok_cases applied
  · exact ⟨id, expr, found, valid, Or.inl ⟨same, present⟩⟩
  · obtain ⟨_, data, property⟩ := Problem.declaration?_eq_some found
    obtain ⟨changed, attached, annotates⟩ := coherent.annotates layered property expr
    rw [attached] at attempted
    exact ⟨id, expr, found, valid, Or.inr (attempted ▸ annotates)⟩

end Apply

-----------------------------------------------------------------------------------------
-- Each call moves the run on
-----------------------------------------------------------------------------------------

/-- Where a run stands after some calls. Each flagged property carries the type of the last
effective call on its problem, and the other properties are as they were.
-/
structure Progress (problems : List Problem) (before : Forest) (calls : List FixCall)
    (run : FixRun) : Prop where
  coherent : run.forest.Coherent
  layered : run.forest.Layered
  outline : SameOutline before run.forest
  carries
    : ∀ index problem id,
        problems[index]? = some problem
        → problem.node = some id
        → run.forest.Carries id ((lastType? problems index calls).map TypeExpr.spelling)
  others
    : ∀ id,
        (∀ problem ∈ problems, problem.node ≠ some id)
        → run.forest.property? (some id) = before.property? (some id)
  mended : ∀ index, index ∈ run.mended ↔ (lastType? problems index calls).isSome

/-- A call that asks for no type changes nothing. -/
theorem Progress.idle (progress : Progress problems before calls run)
    (nothing : call.type? problems = none)
    : Progress problems before (calls ++ [call]) run := by
  have last (index : Nat)
      : lastType? problems index (calls ++ [call]) = lastType? problems index calls := by
    rw [lastType?_append, nothing]
    split <;> rfl
  exact {
    coherent := progress.coherent
    layered := progress.layered
    outline := progress.outline
    carries := by simpa only [last] using progress.carries
    others := progress.others
    mended := by simpa only [last] using progress.mended
  }

/-- A call that asks for a type writes it for the property of its problem. -/
theorem Progress.annotate (progress : Progress problems before calls run)
    (unique : (problems.map Problem.node).Nodup) (called : problems[call.problem]? = some problem)
    (node : problem.node = some id) {expr : TypeExpr} (asked : call.type? problems = some expr)
    (annotates : Annotates run.forest after id expr)
    : Progress problems before (calls ++ [call]) ⟨after, call.problem :: run.mended⟩ := by
  have last (index : Nat)
      : lastType? problems index (calls ++ [call])
        = if call.problem = index then some expr else lastType? problems index calls := by
    rw [lastType?_append, asked]
    split <;> rfl
  exact {
    coherent := annotates.coherent
    layered := annotates.layered
    outline := progress.outline.trans annotates.outline
    carries := by
      intro index other otherId listed otherNode
      rw [last]
      split
      · rename_i same
        subst index
        obtain rfl := Option.some.inj (called.symm.trans listed)
        obtain rfl := Option.some.inj (node.symm.trans otherNode)
        exact annotates.carries
      · rename_i apart
        refine annotates.carries_other otherId ?_ _
          (progress.carries index other otherId listed otherNode)
        intro equal
        subst equal
        have nodes : (problems.map Problem.node)[call.problem]?
            = (problems.map Problem.node)[index]? := by
          simp [called, listed, node, otherNode]
        have known : call.problem < (problems.map Problem.node).length := by
          simpa using (List.getElem?_eq_some_iff.mp called).1
        exact apart ((List.getElem?_inj known unique).mp nodes)
    others := by
      intro other unflagged
      have apart : other ≠ id := by
        intro equal
        subst equal
        exact unflagged problem (List.mem_of_getElem? called) node
      exact (annotates.property?_other other apart).trans (progress.others other unflagged)
    mended := by
      intro index
      rw [last, List.mem_cons, progress.mended]
      by_cases same : call.problem = index
      · simp [same]
      · simp [same, Ne.symm same]
  }

-----------------------------------------------------------------------------------------
-- Runs keep the outline, so every declaration is found again
-----------------------------------------------------------------------------------------

section Runs

variable {settings : Settings} {root : NodeRef} {service : TypeService}
  (coherent : before.Coherent) (layered : before.Layered)

include coherent layered

/-- One call, whether or not it succeeds. The declaration is found again, since no call changes
the outline, so that only the index of the fix and its text decide.
-/
theorem Progress.step
    (progress : Progress (inspectFile settings before root service) before calls run)
    (call : FixCall)
    : Progress (inspectFile settings before root service) before (calls ++ [call])
        (FixRun.step (inspectFile settings before root service) run call) := by
  unfold FixRun.step
  cases called : (inspectFile settings before root service)[call.problem]? with
  | none => exact progress.idle (by simp [FixCall.type?, called])
  | some problem =>
      dsimp only
      cases chosen : problem.fixes[call.fix]? with
      | none =>
          have nothing : call.type? (inspectFile settings before root service) = none := by
            simp [FixCall.type?, called, chosen]
          simpa [Problem.applyFix, chosen] using progress.idle nothing
      | some fix =>
          obtain ⟨id, node, flagged⟩ :=
            flagged_of_mem_inspectFile (List.mem_of_getElem? called)
          have carries := progress.carries call.problem problem id called node
          obtain ⟨data, property⟩ := carries.exists_property
          have found := declaration?_same progress.outline coherent layered flagged property
          cases parsed : TypeExpr.parse fix.typeText with
          | error source =>
              have nothing : call.type? (inspectFile settings before root service) = none := by
                simp [FixCall.type?, called, chosen, parsed, Except.toOption]
              simpa [Problem.applyFix, chosen, TypeFix.apply_invalid found parsed]
                using progress.idle nothing
          | ok expr =>
              have asked : call.type? (inspectFile settings before root service) = some expr := by
                simp [FixCall.type?, called, chosen, parsed, Except.toOption]
              obtain ⟨outcome, after, applied, annotates⟩ :=
                TypeFix.apply_valid progress.coherent progress.layered found carries parsed
              have unique : ((inspectFile settings before root service).map Problem.node).Nodup :=
                inspectFile_nodes_nodup coherent layered
              simpa [Problem.applyFix, chosen, applied]
                using progress.annotate unique called node asked annotates

/-- A run stands where its calls have led it, by induction on the calls from the last one. -/
theorem FixRun.progress (calls : List FixCall)
    : Progress (inspectFile settings before root service) before calls
        (FixRun.ofCalls (inspectFile settings before root service) before calls) := by
  induction calls using List.reverseRecOn with
  | nil =>
      exact {
        coherent := coherent
        layered := layered
        outline := .refl before
        carries := by
          intro index problem id listed node
          obtain ⟨other, otherNode, flagged⟩ :=
            flagged_of_mem_inspectFile (List.mem_of_getElem? listed)
          obtain rfl := Option.some.inj (node.symm.trans otherNode)
          obtain ⟨data, property, empty, _⟩ := isEligible_iff.mp (visit_eq_some_iff.mp flagged).1
          exact ⟨data, property, empty⟩
        others := fun _ _ => rfl
        mended := by simp [FixRun.ofCalls, lastType?]
      }
  | append_singleton calls call ih =>
      have next := ih.step coherent layered call
      rwa [FixRun.ofCalls, List.foldl_append]

/-- A problem is reported again, unchanged, exactly when no call on it has succeeded. -/
theorem Progress.verdict
    (progress : Progress (inspectFile settings before root service) before calls run) {index : Nat}
    (listed : (inspectFile settings before root service)[index]? = some problem)
    : visit settings.propertyType service run.forest problem.fileName problem.node
      = if index ∈ run.mended then none else some problem := by
  obtain ⟨id, node, flagged⟩ := flagged_of_mem_inspectFile (List.mem_of_getElem? listed)
  have carries := progress.carries index problem id listed node
  have mended := progress.mended index
  rw [node]
  cases last : lastType? (inspectFile settings before root service) index calls with
  | none =>
      rw [last] at carries mended
      obtain ⟨data, property, empty⟩ := carries
      obtain ⟨old, found, oldEmpty, _⟩ := isEligible_iff.mp (visit_eq_some_iff.mp flagged).1
      have same := progress.outline.property?_eq found property (empty.trans oldEmpty.symm)
      have unchanged : run.forest.property? (some id) = before.property? (some id) := by
        rw [property, found, same]
      have unmended : index ∉ run.mended := by simp [mended]
      rw [visit_same progress.outline coherent layered unchanged, flagged, if_neg unmended]
  | some expr =>
      rw [last] at carries mended
      obtain ⟨data, type, _, property, filled, _⟩ := carries
      have done : index ∈ run.mended := by simp [mended]
      rw [visit_typed property filled, if_pos done]

end Runs

/-- The sample forest with two properties more, which have no type yet. -/
def shelf : Forest :=
  [.addProperty (some 0) "owner" false {} {}, .addProperty (some 0) "size" true {} {}].foldl
    Edit.apply Forest.retyped

/-- A source of types that knows the same type for every declaration. -/
def idService : TypeService where
  declarationType? _ := some 0
  supertypes _ := [1]
  headName _ := "Any"
  arguments _ := []
  display _ := "Id?"

/-- The problem on a property of the sample forest. -/
def untyped (id : NodeId) (name : String) : Problem where
  fileName := "Shelf.kt"
  node := some id
  declarationName := name
  span := {}
  message := "There's no type reference for the property"
  category := .warning
  fixes := [⟨"Id?"⟩, ⟨"Any"⟩]

theorem shelf_reachable : Reachable Declarable shelf := by
  have first : Declarable Forest.retyped (some 0) :=
    Forest.declarable_some (by cbv) (by cbv)
  have owner := Forest.retyped_reachable.step (.addProperty (some 0) "owner" false {} {}) first
  exact owner.step (.addProperty (some 0) "size" true {} {})
    (Forest.declarable_some (by cbv) (by cbv))

/-- The books have a type already, so only the two other properties are reported, whatever is known
of their types.
-/
theorem shelf_check (service : TypeService)
    : Inspection.check {} service shelf (some 0)
      = [{ untyped 4 "owner" with fixes := (offered {} service (some 4)).map TypeFix.mk },
          { untyped 5 "size" with fixes := (offered {} service (some 5)).map TypeFix.mk }] := by
  have listed : shelf.properties (some 0) = [1, 4, 5] := by with_unfolding_all rfl
  have books : isEligible shelf (some 1) = false := by with_unfolding_all rfl
  have owner : isEligible shelf (some 4) = true := by with_unfolding_all rfl
  have size : isEligible shelf (some 5) = true := by with_unfolding_all rfl
  simp only [check, listed, visit, books, owner, size, List.filterMap, if_true,
    Bool.false_eq_true, if_false]
  generalize (offered {} service (some 4)).map TypeFix.mk = ownerFixes
  generalize (offered {} service (some 5)).map TypeFix.mk = sizeFixes
  cbv

theorem shelf_problems
    : inspectFile {} shelf (some 0) idService = [untyped 4 "owner", untyped 5 "size"] :=
  shelf_check idService

/-- After every run of calls on the problems of one inspection, the property of each problem
carries the type of the last call that names a fix whose text is a type, and no type if there was
no such call; these are the calls that succeed. A second inspection reports exactly the problems
on which no call has succeeded, in the same order and unchanged.
-/
theorem fix_runs_settle_problems {forest : Forest} (reachable : Reachable Declarable forest)
    (settings : Settings) (root : NodeRef) (service : TypeService) (calls : List FixCall)
    : let problems := inspectFile settings forest root service
      let run := FixRun.ofCalls problems forest calls
      (∀ index problem,
          problems[index]? = some problem
          → run.forest.propertyTypeText? problem.node
            = (lastType? problems index calls).map TypeExpr.spelling)
        ∧ (∀ index, index ∈ run.mended ↔ (lastType? problems index calls).isSome)
        ∧ inspectFile settings run.forest root service
          = (problems.zipIdx.filter fun (_, index) => index ∉ run.mended).map Prod.fst := by
  intro problems run
  have coherent := Edited.coherent reachable.known Forest.known_stable Forest.empty_coherent
  have layered := Edited.layered reachable Forest.empty_coherent Forest.empty_layered
  have progress : Progress problems forest calls run := FixRun.progress coherent layered calls
  refine ⟨?_, progress.mended, ?_⟩
  · intro index problem listed
    obtain ⟨id, node, _⟩ := flagged_of_mem_inspectFile (List.mem_of_getElem? listed)
    rw [node]
    exact (progress.carries index problem id listed node).propertyTypeText? progress.coherent
  · rw [reinspect progress.outline coherent layered progress.coherent progress.layered
      progress.others, ← List.filterMap_eq_map, ← List.filterMap_eq_filter,
      List.filterMap_filterMap]
    change problems.filterMap _ = _
    rw [← List.zipIdx_map_fst 0 problems, List.filterMap_map, List.zipIdx_map_fst]
    refine List.filterMap_congr fun ⟨problem, index⟩ member => ?_
    have listed : problems[index]? = some problem := List.mk_mem_zipIdx_iff_getElem?.mp member
    rw [Function.comp_apply, progress.verdict coherent layered listed]
    by_cases done : index ∈ run.mended <;> simp [Option.guard, done]

set_option maxRecDepth 10000 in
/-- On the sample shelf the second fix of the first problem is applied, then the first one. -/
theorem shelf_fixes_settle_problems
    : let run := FixRun.ofCalls (inspectFile {} shelf (some 0) idService) shelf
        [⟨0, 1⟩, ⟨0, 0⟩, ⟨0, 9⟩]
      Reachable Declarable shelf
        ∧ run.forest.propertyTypeText? (some 4) = some "Id?"
        ∧ inspectFile {} run.forest (some 0) idService = [untyped 5 "size"] := by
  intro run
  have last : lastType? [untyped 4 "owner", untyped 5 "size"] 0 [⟨0, 1⟩, ⟨0, 0⟩, ⟨0, 9⟩]
      = some (.named ["Id"] [] true) := by with_unfolding_all rfl
  have other : lastType? [untyped 4 "owner", untyped 5 "size"] 1 [⟨0, 1⟩, ⟨0, 0⟩, ⟨0, 9⟩] = none :=
    by rfl
  obtain ⟨texts, mended, left⟩ :=
    fix_runs_settle_problems shelf_reachable {} (some 0) idService [⟨0, 1⟩, ⟨0, 0⟩, ⟨0, 9⟩]
  rw [shelf_problems] at texts mended left
  have first := (mended 0).mpr (by rw [last]; rfl)
  have second := mt (mended 1).mp (by rw [other]; simp)
  refine ⟨shelf_reachable, ?_, ?_⟩
  · have text := texts 0 _ rfl
    rw [last] at text
    simp only [run, shelf_problems]
    exact text.trans (by decide)
  · simp only [run, shelf_problems]
    rw [left]
    simp [first, second]

end PropertyLint
