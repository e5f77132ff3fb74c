import PropertyLint.Proofs.Forest.Survival

/-! When attaching a type reference closes a cycle.
A declaration may stand below a detached type reference. Nothing keeps that type reference from
being attached to a property below itself, and this is the only way in which a cycle of parents
comes about.
-/

namespace PropertyLint.Forest

open Relation (ReflTransGen TransGen)

variable {forest : Forest} {parent child first last property type root : NodeId}

-----------------------------------------------------------------------------------------
-- Paths through a filled slot
-----------------------------------------------------------------------------------------

section Fill

variable (vacant : forest.Vacant property type)

include vacant

/-- Filling a slot adds one link to the parents. -/
theorem Vacant.isParent_fillSlot
    : (forest.fillSlot property type).IsParent parent child
      ↔ parent = property ∧ child = type ∨ forest.IsParent parent child := by
  unfold IsParent
  rw [vacant.parentOf_fillSlot]
  by_cases same : child = type
  · simp [same, vacant.free, eq_comm]
  · simp [same]

/-- A path either was there before, or it passes through the new link: it comes down to the property
and goes on from the type.
-/
theorem Vacant.path_fillSlot
    (path : TransGen (forest.fillSlot property type).IsParent first last)
    : TransGen forest.IsParent first last
      ∨ forest.Above first property ∧ forest.Above type last := by
  induction path with
  | single link =>
      rcases vacant.isParent_fillSlot.mp link with ⟨rfl, rfl⟩ | old
      · exact Or.inr ⟨.refl, .refl⟩
      · exact Or.inl (.single old)
  | tail _ link ih =>
      rcases vacant.isParent_fillSlot.mp link with ⟨rfl, rfl⟩ | old
      · exact Or.inr ⟨ih.elim TransGen.to_reflTransGen And.left, .refl⟩
      · exact ih.imp (fun earlier => earlier.tail old) fun ⟨down, on⟩ => ⟨down, on.tail old⟩

/-- The new link closes a cycle exactly when the type stood above the property. -/
theorem Vacant.acyclic_fillSlot_iff (acyclic : forest.Acyclic)
    : (forest.fillSlot property type).Acyclic ↔ ¬ forest.Above type property := by
  constructor
  · intro after above
    have kept : (forest.fillSlot property type).Above type property :=
      ReflTransGen.mono (fun _ _ old => vacant.isParent_fillSlot.mpr (Or.inr old)) _ _ above
    have link : (forest.fillSlot property type).IsParent property type :=
      vacant.isParent_fillSlot.mpr (Or.inl ⟨rfl, rfl⟩)
    exact after type (TransGen.tail' kept link)
  · intro apart id cycle
    rcases vacant.path_fillSlot cycle with old | ⟨down, on⟩
    · exact acyclic id old
    · exact apart (on.trans down)

end Fill

-----------------------------------------------------------------------------------------
-- Emptying the slot before
-----------------------------------------------------------------------------------------

/-- A removal brings no cycle. -/
theorem Acyclic.remove (acyclic : forest.Acyclic) (linked : forest.Linked) (ref : NodeRef)
    : (forest.remove ref).Acyclic := by
  rcases forest.remove_cases ref with same | ⟨root, rfl, found⟩
  · rwa [same]
  · intro id cycle
    refine acyclic id (TransGen.mono (fun _ _ kept => ?_) _ _ cycle)
    exact ((linked.parentOf_remove found).mp kept).2

/-- In a forest without cycles the way up from a property does not lead through what is below its
previous type, so that the removal of that type leaves the way as it is.
-/
theorem Coherent.above_emptied_iff (coherent : forest.Coherent) (acyclic : forest.Acyclic)
    {data : PropertyData} (found : forest.property? (some property) = some data)
    : (forest.remove data.typeSlot).Above first property ↔ forest.Above first property := by
  cases slot : data.typeSlot with
  | none => rfl
  | some previous =>
      have linked := coherent.linked
      obtain ⟨link, _⟩ := coherent.slot found slot
      have present := parentOf_lt_size link
      have apart : ¬ forest.Below previous property := by
        intro below
        exact acyclic previous (TransGen.tail' (linked.above_iff_below.mpr below) link)
      constructor
      · exact ReflTransGen.mono (fun _ _ kept => ((linked.parentOf_remove present).mp kept).2) _ _
      · intro above
        induction above using ReflTransGen.head_induction_on with
        | refl => exact .refl
        | head step rest ih =>
            refine .head ((linked.parentOf_remove present).mpr ⟨fun below => apart ?_, step⟩) ih
            exact below.trans (linked.above_iff_below.mp rest)

-----------------------------------------------------------------------------------------
-- Climbs that go round
-----------------------------------------------------------------------------------------

/-- No source file has a parent, so that a climb stops at one only where the parents end. -/
def FilesOnTop (forest : Forest) : Prop :=
  ∀ parent child, forest.IsParent parent child → forest.kind? (some child) ≠ some .sourceFile

theorem kind?_ne_sourceFile (typed : forest.isTypeReference type)
    : forest.kind? (some type) ≠ some .sourceFile := by
  intro file
  simp [isTypeReference, file] at typed

theorem FilesOnTop.push (onTop : forest.FilesOnTop) {ref : NodeRef} (known : forest.Known ref)
    {span : Span} {data : NodeData} (free : data.kind = .sourceFile → ref = none)
    : (forest.push ref span data).2.FilesOnTop := by
  intro parent child link
  rw [IsParent, parentOf_push known] at link
  rw [kind?_eq, content?_push known]
  split at link
  · rename_i fresh
    intro file
    rw [if_pos fresh] at file
    rw [free (Option.some.inj file)] at link
    cases link
  · rename_i old
    rw [if_neg old, ← kind?_eq]
    exact onTop parent child link

theorem FilesOnTop.grown (onTop : forest.FilesOnTop) {after : Forest} (grown : Grown forest after)
    : after.FilesOnTop := by
  intro parent child link
  by_cases known : child < forest.size
  · rw [IsParent, grown.parentOf known] at link
    rw [kind?_eq, grown.content? known, ← kind?_eq]
    exact onTop parent child link
  · exact kind?_ne_sourceFile (grown.typed child (parentOf_lt_size link) (Nat.not_lt.mp known))

theorem FilesOnTop.remove (onTop : forest.FilesOnTop) (linked : forest.Linked) (ref : NodeRef)
    : (forest.remove ref).FilesOnTop := by
  rcases forest.remove_cases ref with same | ⟨root, rfl, found⟩
  · rwa [same]
  · intro parent child link
    obtain ⟨apart, old⟩ := (linked.parentOf_remove found).mp link
    rw [kind?_remove_apart apart]
    exact onTop parent child old

theorem FilesOnTop.attachType (onTop : forest.FilesOnTop) (coherent : forest.Coherent)
    (property typeRef : NodeRef)
    : (forest.attachType property typeRef).2.FilesOnTop := by
  rcases coherent.attachType_cases property typeRef with
    ⟨_, same⟩ | ⟨target, type, data, rfl, rfl, attaches, done⟩
  · rwa [same]
  · rw [done]
    have vacant := attaches.vacant coherent
    intro parent child link
    rw [kind?_fillSlot]
    rcases vacant.isParent_fillSlot.mp link with ⟨_, rfl⟩ | old
    · exact kind?_ne_sourceFile vacant.typed
    · exact onTop.remove coherent.linked data.typeSlot parent child old

theorem FilesOnTop.declareNamed (onTop : forest.FilesOnTop) {parent : NodeRef}
    (known : forest.Known parent) (name : String) (span : Span) (content : Atom → NodeData)
    (inner : ∀ atom, (content atom).kind ≠ .sourceFile)
    : ((forest.intern name).2.push parent span (content (forest.intern name).1)).2.FilesOnTop :=
  (onTop.grown (.intern forest name)).push (known_stable.grown (.intern forest name) known)
    fun file => absurd file (inner _)

/-- Every edit leaves source files without a parent. -/
theorem FilesOnTop.edit (onTop : forest.FilesOnTop) (coherent : forest.Coherent) (edit : Edit)
    (known : forest.Known edit.parent)
    : (edit.apply forest).FilesOnTop := by
  cases edit with
  | addSourceFile fileName span => exact onTop.push known fun _ => rfl
  | addClass parent name span =>
      exact onTop.declareNamed known name span .classDeclaration (by simp [NodeData.kind])
  | addFunction parent name span =>
      exact onTop.declareNamed known name span .functionDeclaration (by simp [NodeData.kind])
  | addBlock parent span => exact onTop.push known (by simp [NodeData.kind])
  | addProperty parent name isMutable span nameSpan =>
      exact onTop.declareNamed known name span
        (fun atom => .property ⟨atom, nameSpan, isMutable, none⟩) (by simp [NodeData.kind])
  | addTypedProperty parent name typeText span nameSpan =>
      rw [apply_addTypedProperty]
      split
      · exact onTop
      · rename_i expr _
        have added := (addType_added coherent expr).1
        have allowed := known_stable.grown added.grown known
        have declared := (onTop.grown added.grown).declareNamed allowed name span
          (fun atom => .property ⟨atom, nameSpan, false, none⟩) (by simp [NodeData.kind])
        have changes := added.coherent.declareNamed known_stable allowed name span
          (fun atom => .property ⟨atom, nameSpan, false, none⟩) (fun _ => rfl) (fun _ => rfl)
        exact declared.attachType
          (Changes.coherent (LastingChanges.changes changes) known_stable added.coherent) _ _
  | addTypeText text =>
      rw [apply_addTypeText]
      split
      · exact onTop
      · exact onTop.grown (addType_added coherent _).1.grown
  | addType expr => exact onTop.grown (addType_added coherent expr).1.grown
  | attachType property typeRef => exact onTop.attachType coherent property typeRef
  | remove ref => exact onTop.remove coherent.linked ref
  | intern text => exact onTop.grown (.intern forest text)

/-- After every history source files have no parent, by induction on it. -/
theorem Edited.filesOnTop {start : Forest} (edited : Edited Known start forest)
    (coherent : start.Coherent) (onTop : start.FilesOnTop)
    : forest.FilesOnTop := by
  induction edited with
  | refl => exact onTop
  | step earlier edit known ih =>
      exact ih.edit (Edited.coherent earlier known_stable coherent) edit known

theorem empty_filesOnTop : FilesOnTop .empty :=
  fun _ _ link => absurd (parentOf_lt_size link) (Nat.not_lt_zero _)

/-- A climb that ends does not start on a cycle, by induction on the climb: the parent of a node on
a cycle is on it, too.
-/
theorem Climb.off_cycle {ref : NodeRef} {result : Option String} (climb : forest.Climb ref result)
    (onTop : forest.FilesOnTop)
    : ∀ id, ref = some id → ¬ TransGen forest.IsParent id id := by
  induction climb with
  | lost missing =>
      rintro id rfl cycle
      obtain ⟨_, _, link⟩ := TransGen.tail'_iff.mp cycle
      obtain ⟨node, found, _⟩ := parentOf_eq_some_iff.mp link
      rw [node?_some, found] at missing
      cases missing
  | arrived found file =>
      rintro id rfl cycle
      obtain ⟨_, _, link⟩ := TransGen.tail'_iff.mp cycle
      exact onTop _ id link (by simp [kind?, found, Node.kind, file, NodeData.kind])
  | up found inner above ih =>
      rintro id rfl cycle
      obtain ⟨parent, rest, link⟩ := TransGen.tail'_iff.mp cycle
      obtain ⟨node, again, up⟩ := parentOf_eq_some_iff.mp link
      obtain rfl := Option.some.inj (again.symm.trans found)
      exact ih parent up (TransGen.head' link rest)

/-- Every climb ends exactly when there is no cycle. -/
theorem FilesOnTop.acyclic_iff_climbs (onTop : forest.FilesOnTop)
    : forest.Acyclic ↔ ∀ ref, ∃ result, forest.Climb ref result := by
  constructor
  · intro acyclic ref
    exact ⟨_, (acyclic.climb_iff ref _).mpr rfl⟩
  · intro climbs id
    obtain ⟨result, climb⟩ := climbs (some id)
    exact climb.off_cycle onTop id rfl

-----------------------------------------------------------------------------------------
-- Attaching
-----------------------------------------------------------------------------------------

/-- The type reference is detached and stands above the property. -/
structure Encloses (forest : Forest) (type property : NodeId) : Prop where
  declared : ∃ data, forest.property? (some property) = some data
  typed : forest.isTypeReference type
  detached : forest.parentOf (some type) = none
  above : forest.Above type property

/-- Attaching closes a cycle in one case only. After every history, whatever stands below type
references, a forest without cycles gets one exactly when a detached type reference is attached to a
property below itself. Then some climb along the parents never ends; otherwise every climb ends,
with what the query returns.
-/
theorem attaching_closes_cycle_iff {forest : Forest} (reachable : Reachable Known forest)
    (acyclic : forest.Acyclic) (property typeRef : NodeRef)
    : let after := (forest.attachType property typeRef).2
      (¬ after.Acyclic
        ↔ ∃ target type,
            property = some target ∧ typeRef = some type ∧ forest.Encloses type target)
      ∧ (after.Acyclic ↔ ∀ ref, ∃ result, after.Climb ref result)
      ∧ (after.Acyclic
        → ∀ ref result, after.Climb ref result ↔ result = after.fileName? ref) := by
  have coherent := Edited.coherent reachable known_stable empty_coherent
  have onTop := Edited.filesOnTop reachable empty_coherent empty_filesOnTop
  intro after
  refine ⟨?_, (onTop.attachType coherent property typeRef).acyclic_iff_climbs, Acyclic.climb_iff⟩
  constructor
  · intro cyclic
    rcases coherent.attachType_cases property typeRef with
      ⟨_, same⟩ | ⟨target, type, data, rfl, rfl, attaches, done⟩
    · have unchanged : after = forest := same
      exact absurd (unchanged ▸ acyclic) cyclic
    · refine ⟨target, type, rfl, rfl, ⟨data, attaches.property⟩, attaches.typed, attaches.free, ?_⟩
      have replaced : after = (forest.remove data.typeSlot).fillSlot target type :=
        congrArg Prod.snd done
      have emptied := acyclic.remove coherent.linked data.typeSlot
      rw [replaced, (attaches.vacant coherent).acyclic_fillSlot_iff emptied, not_not] at cyclic
      exact (coherent.above_emptied_iff acyclic attaches.property).mp cyclic
  · rintro ⟨target, type, rfl, rfl, ⟨data, found⟩, typed, detached, above⟩
    have attaches : forest.Attaches target type data := by
      refine ⟨found, typed, detached, fun filled => ?_⟩
      rw [(coherent.slot found filled).1] at detached
      cases detached
    have replaced : after = (forest.remove data.typeSlot).fillSlot target type :=
      congrArg Prod.snd attaches.attachType
    have emptied := acyclic.remove coherent.linked data.typeSlot
    rw [replaced, (attaches.vacant coherent).acyclic_fillSlot_iff emptied, not_not]
    exact (coherent.above_emptied_iff acyclic found).mpr above

/-- A property that has been declared below a detached type reference. -/
def sheltered : Forest :=
  ((Forest.empty.addType (.named ["Int"] [] false)).2.addProperty (some 0) "count" false {} {}).2

theorem sheltered_reachable : Reachable Known sheltered := by
  have typed : Reachable Known (Forest.empty.addType (.named ["Int"] [] false)).2 :=
    .step .refl (.addType (.named ["Int"] [] false)) known_none
  have known : (Forest.empty.addType (.named ["Int"] [] false)).2.Known (some 0) := by
    have size : (Forest.empty.addType (.named ["Int"] [] false)).2.size = 1 := by cbv
    exact known_some (size ▸ Nat.zero_lt_one)
  exact typed.step (.addProperty (some 0) "count" false {} {}) known

theorem sheltered_link (link : sheltered.IsParent parent child) : parent = 0 ∧ child = 1 := by
  have size : sheltered.size = 2 := by cbv
  have known := parentOf_lt_size link
  have below : sheltered.parentOf (some 1) = some 0 := by cbv
  have top : sheltered.parentOf (some 0) = none := by cbv
  rw [size, Nat.lt_succ_iff, Nat.le_one_iff_eq_zero_or_eq_one] at known
  rcases known with rfl | rfl
  · cases top.symm.trans link
  · exact ⟨Option.some.inj (link.symm.trans below), rfl⟩

theorem sheltered_acyclic : sheltered.Acyclic := by
  intro id cycle
  obtain ⟨_, link, _⟩ := TransGen.head'_iff.mp cycle
  obtain ⟨_, _, last⟩ := TransGen.tail'_iff.mp cycle
  have first := (sheltered_link link).1
  have second := (sheltered_link last).2
  exact Nat.zero_ne_one (first.symm.trans second)

/-- The type reference above the property closes a cycle; another one closes none. -/
theorem sheltered_closed_by_shelter
    : Reachable Known sheltered
      ∧ sheltered.Acyclic
      ∧ ¬ (sheltered.attachType (some 1) (some 0)).2.Acyclic
      ∧ (sheltered.attachType (some 1) (some 1)).2.Acyclic := by
  obtain ⟨closes, _, _⟩ :=
    attaching_closes_cycle_iff sheltered_reachable sheltered_acyclic (some 1) (some 0)
  obtain ⟨refused, _, _⟩ :=
    attaching_closes_cycle_iff sheltered_reachable sheltered_acyclic (some 1) (some 1)
  refine ⟨sheltered_reachable, sheltered_acyclic, closes.mpr ?_, ?_⟩
  · have below : sheltered.IsParent 0 1 := by
      show sheltered.parentOf (some 1) = some 0
      cbv
    exact ⟨1, 0, rfl, rfl, ⟨_, by cbv⟩, by cbv, by cbv, .single below⟩
  · by_contra cyclic
    obtain ⟨_, type, _, ⟨⟩, _, typed, _⟩ := refused.mp cyclic
    have other : sheltered.isTypeReference 1 = false := by cbv
    rw [other] at typed
    cases typed

/-- Attaching succeeds there and the file of the property can no longer be found: the property and
its type are each other's parents, so that no climb ends.
-/
theorem sheltered_climb_never_ends
    : let after := (sheltered.attachType (some 1) (some 0)).2
      Reachable Known sheltered
      ∧ sheltered.Acyclic
      ∧ (sheltered.attachType (some 1) (some 0)).1.isDone
      ∧ ¬ after.Acyclic
      ∧ ∀ result, ¬ after.Climb (some 1) result := by
  intro after
  have coherent := Edited.coherent sheltered_reachable known_stable empty_coherent
  have onTop := Edited.filesOnTop sheltered_reachable empty_coherent empty_filesOnTop
  have down : after.parentOf (some 1) = some 0 := by cbv
  have up : after.parentOf (some 0) = some 1 := by cbv
  have cycle : TransGen after.IsParent 1 1 := .head up (.single down)
  refine ⟨sheltered_reachable, sheltered_acyclic, by cbv, fun acyclic => acyclic 1 cycle, ?_⟩
  intro result climb
  exact climb.off_cycle (onTop.attachType coherent (some 1) (some 0)) 1 rfl cycle

end PropertyLint.Forest
