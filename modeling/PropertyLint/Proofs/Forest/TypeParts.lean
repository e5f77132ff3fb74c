import Mathlib.Tactic.IntervalCases
import PropertyLint.Proofs.Forest.Remnants

/-! An added expression is one node for each of its parts.
Arguments come before the type that they belong to, so the nodes stand in the order in which the
parts are completed. From each of them its part is read back, and the root keeps standing for the
expression until one of the nodes is removed, whatever else is done to the forest.
-/

namespace PropertyLint

namespace TypeExpr

mutual

/-- The expression with all arguments in it, at any depth, each behind its own arguments. -/
def parts : TypeExpr → List TypeExpr
  | .star => [.star]
  | .named name arguments nullable => partsAll arguments ++ [.named name arguments nullable]

def partsAll : List TypeExpr → List TypeExpr
  | [] => []
  | expr :: rest => expr.parts ++ partsAll rest

end

end TypeExpr

namespace Forest

variable {forest before middle after : Forest} {id parent child start : NodeId}
  {ids : List NodeId} {exprs others : List TypeExpr} {expr : TypeExpr}

-----------------------------------------------------------------------------------------
-- One node for each part
-----------------------------------------------------------------------------------------

/-- The nodes from `start` on spell the expressions, one by one. -/
def SpellsFrom (forest : Forest) (start : NodeId) (exprs : List TypeExpr) : Prop :=
  ∀ index expr, exprs[index]? = some expr → forest.Spells expr (start + index)

theorem spellsFrom_nil : forest.SpellsFrom start [] := by
  simp [SpellsFrom]

theorem SpellsFrom.append (first : forest.SpellsFrom start exprs)
    (second : forest.SpellsFrom (start + exprs.length) others)
    : forest.SpellsFrom start (exprs ++ others) := by
  intro index expr found
  by_cases early : index < exprs.length
  · rw [List.getElem?_append_left early] at found
    exact first index expr found
  · have late : exprs.length ≤ index := Nat.not_lt.mp early
    rw [List.getElem?_append_right late] at found
    have place : start + exprs.length + (index - exprs.length) = start + index := by
      rw [Nat.add_assoc, Nat.add_sub_of_le late]
    exact place ▸ second (index - exprs.length) expr found

theorem spellsFrom_single (spells : forest.Spells expr start) : forest.SpellsFrom start [expr] := by
  intro index other found
  cases index with
  | zero => exact Option.some.inj found ▸ spells
  | succ index => simp at found

theorem SpellsFrom.carry (names : before.interner.Extends after.interner)
    (spells : before.SpellsFrom start exprs)
    (kept
      : ∀ id < before.size,
          after.content? (some id) = before.content? (some id)
          ∧ after.childrenOf (some id) = before.childrenOf (some id))
    : after.SpellsFrom start exprs :=
  fun index expr found => (spells index expr found).carry names kept

/-- What is added, seen as a run of nodes: one for each part. -/
structure Spelled (before after : Forest) (parts : List TypeExpr) : Prop where
  size_eq : after.size = before.size + parts.length
  spells : after.SpellsFrom before.size parts

theorem Spelled.nil (forest : Forest) : Spelled forest forest [] :=
  ⟨rfl, spellsFrom_nil⟩

/-- One run after the other is one run. -/
theorem Spelled.trans (first : Spelled before middle exprs) (later : Spelled middle after others)
    (grown : Grown middle after)
    : Spelled before after (exprs ++ others) where
  size_eq := by rw [later.size_eq, first.size_eq, List.length_append, Nat.add_assoc]
  spells := by
    have carried := first.spells.carry grown.names grown.contents
    exact carried.append (first.size_eq ▸ later.spells)

/-- The node that adopts the roots among them ends a run. -/
theorem Spelled.named (inner : Spelled before middle exprs)
    (appended : Appended before middle ids) {data : TypeReferenceData}
    (whole : ((middle.withRoot data).adopt middle.size ids).Spells expr middle.size)
    : Spelled before ((middle.withRoot data).adopt middle.size ids) (exprs ++ [expr]) where
  size_eq := by simp [inner.size_eq, Nat.add_assoc]
  spells := by
    have carried := inner.spells.carry (by simpa using .refl _) fun id known =>
      appended.kept_named data known
    exact carried.append (inner.size_eq ▸ spellsFrom_single whole)

mutual

/-- An added expression is a run of nodes that spell its parts, by recursion on the expression. -/
theorem addType_spelled {forest : Forest} (consistent : forest.interner.Consistent)
    (expr : TypeExpr)
    : Spelled forest (forest.addType expr).2 expr.parts := by
  have whole := (addType_spells consistent expr).2
  cases expr with
  | star =>
      rw [addType_star] at whole ⊢
      exact (Spelled.nil forest).named (.nil forest) whole
  | named name arguments nullable =>
      have named : (forest.internAll name).2.interner.Consistent := consistent.internAll name
      have inner := addTypes_spelled named arguments
      have appended := addTypes_appended (forest.internAll name).2 arguments
      rw [addType_named] at whole ⊢
      rw [TypeExpr.parts]
      have ended := inner.named appended whole
      exact ⟨ended.size_eq, ended.spells⟩
termination_by sizeOf expr

theorem addTypes_spelled {forest : Forest} (consistent : forest.interner.Consistent)
    (exprs : List TypeExpr)
    : Spelled forest (forest.addTypes exprs).2 (TypeExpr.partsAll exprs) := by
  cases exprs with
  | nil => exact .nil forest
  | cons expr rest =>
      have first := addType_spelled consistent expr
      have later := addTypes_spelled (addType_spells consistent expr).1 rest
      rw [TypeExpr.partsAll]
      exact first.trans later (addTypes_appended (forest.addType expr).2 rest).grown
termination_by sizeOf exprs

end

/-- Every node of a run spells an expression. -/
theorem Spelled.exists_spells (spelled : Spelled before after exprs) (fresh : before.size ≤ id)
    (known : id < after.size)
    : ∃ expr, after.Spells expr id := by
  have bound : id - before.size < exprs.length := by
    rw [spelled.size_eq] at known
    exact Nat.sub_lt_left_of_lt_add fresh known
  have spells := spelled.spells _ _ (List.getElem?_eq_getElem bound)
  rw [Nat.add_sub_of_le fresh] at spells
  exact ⟨_, spells⟩

/-- The root is the last node that is added. -/
theorem addType_root (forest : Forest) (expr : TypeExpr)
    : (forest.addType expr).1 + 1 = (forest.addType expr).2.size := by
  cases expr with
  | star => simp [addType_star]
  | named name arguments nullable => simp [addType_named]

/-- The children of a type in a tree are its arguments. -/
theorem Spells.arguments (spells : forest.Spells expr id)
    : ∃ data,
        forest.typeReference? (some id) = some data
        ∧ forest.childrenOf (some id) = data.arguments := by
  cases expr with
  | star =>
      simp only [Spells] at spells
      exact ⟨.star, typeReference?_eq_some_iff.mpr spells.1, spells.2⟩
  | named name arguments nullable =>
      simp only [Spells] at spells
      obtain ⟨atoms, ids, content, children, _⟩ := spells
      exact ⟨.named atoms ids nullable, typeReference?_eq_some_iff.mpr content, children⟩

/-- New nodes stand above new nodes only, as earlier ones keep their parents. -/
theorem Grown.fresh_child (grown : Grown before after) (linked : before.Linked)
    (afterLinked : after.Linked) (fresh : before.size ≤ parent)
    (listed : child ∈ after.childrenOf (some parent))
    : before.size ≤ child := by
  by_contra early
  have link := (afterLinked.link parent child).mp listed
  rw [grown.parentOf (Nat.lt_of_not_le early)] at link
  exact Nat.not_lt.mpr fresh (linked.parent_lt_size link)

-----------------------------------------------------------------------------------------
-- A tree is read until one of its nodes is removed
-----------------------------------------------------------------------------------------

/-- Nothing becomes another kind of node than it was, except that nodes are removed. -/
structure Fades (before after : Forest) : Prop extends Retains before after where
  kinds
    : ∀ id < before.size,
        after.kind? (some id) = before.kind? (some id) ∨ after.kind? (some id) = some .removed

theorem Fades.trans (first : Fades before middle) (second : Fades middle after)
    : Fades before after where
  toRetains := first.toRetains.trans second.toRetains
  kinds id known := by
    rcases second.kinds id (Nat.lt_of_lt_of_le known first.size_le) with same | gone
    · exact same ▸ first.kinds id known
    · exact Or.inr gone

theorem Grown.fades (grown : Grown before after) : Fades before after where
  toRetains := grown.retains
  kinds id known := Or.inl (by rw [kind?_eq, grown.content? known, ← kind?_eq])

theorem Fades.push (forest : Forest) (ref : NodeRef) (span : Span) (data : NodeData)
    : Fades forest (forest.push ref span data).2 where
  toRetains := .push forest ref span data
  kinds id known := Or.inl (by rw [kind?_eq, content?_push_old known, ← kind?_eq])

theorem Fades.remove (forest : Forest) (ref : NodeRef) : Fades forest (forest.remove ref) where
  toRetains := .remove forest ref
  kinds id known := by
    rcases forest.remove_cases ref with same | ⟨root, rfl, found⟩
    · exact Or.inl (by rw [same])
    · by_cases below : forest.Below root id
      · have erased := (queries_remove_below found below known).2.2
        exact Or.inr (by rw [kind?_eq, erased]; rfl)
      · exact Or.inl (kind?_remove_apart below)

theorem Fades.fillSlot (forest : Forest) (property type : NodeId)
    : Fades forest (forest.fillSlot property type) :=
  ⟨.fillSlot forest property type, fun _ _ => Or.inl kind?_fillSlot⟩

theorem fades_persists : Persists Fades :=
  ⟨.trans, Grown.fades, Fades.push, Fades.remove, Fades.fillSlot⟩

/-- A type reference that has not been removed is the one that was made. -/
theorem Fades.typeReference? (fades : Fades before after) {data : TypeReferenceData}
    (typed : before.typeReference? (some id) = some data)
    (alive : after.kind? (some id) ≠ some .removed)
    : after.typeReference? (some id) = some data := by
  have content := typeReference?_eq_some_iff.mp typed
  have known := content?_lt_size content
  have kind := (fades.kinds id known).resolve_right alive
  have still : after.isTypeReference id := by
    rw [isTypeReference, kind, ← isTypeReference]
    exact isTypeReference_iff.mpr ⟨data, content⟩
  obtain ⟨left, found⟩ := isTypeReference_iff.mp still
  have read := typeReference?_eq_some_iff.mpr found
  have same := fades.types id known left read
  rw [typed] at same
  exact same ▸ read

section Later

variable {later : Forest} (coherent : forest.Coherent) (expr : TypeExpr)
  (fades : Fades (forest.addType expr).2 later)
  (alive
    : ∀ id,
        forest.size ≤ id ∧ id < (forest.addType expr).2.size
        → later.kind? (some id) ≠ some .removed)

include coherent fades alive

/-- New nodes that have not been removed are the same, with the same names and new arguments. -/
theorem Coherent.typeReference?_later (new : forest.size ≤ id ∧ id < (forest.addType expr).2.size)
    : later.typeReference? (some id) = (forest.addType expr).2.typeReference? (some id)
      ∧ ∀ data,
          (forest.addType expr).2.typeReference? (some id) = some data
          → (∀ atom ∈ data.name,
              later.interner.resolve atom = (forest.addType expr).2.interner.resolve atom)
            ∧ ∀ argument ∈ data.arguments,
                forest.size ≤ argument ∧ argument < (forest.addType expr).2.size := by
  have added := (addType_added coherent expr).1
  have spelled := addType_spelled coherent.named.consistent expr
  obtain ⟨part, spells⟩ := spelled.exists_spells new.1 new.2
  obtain ⟨data, typed, children⟩ := spells.arguments
  refine ⟨(fades.typeReference? typed (alive id new)).trans typed.symm, fun other found => ?_⟩
  obtain rfl := Option.some.inj (typed.symm.trans found)
  constructor
  · intro atom member
    have content := typeReference?_eq_some_iff.mp typed
    exact fades.names.resolve (added.coherent.named.known content atom member)
  · intro argument member
    rw [← children] at member
    exact ⟨added.grown.fresh_child coherent.linked added.coherent.linked new.1 member,
      added.coherent.linked.child_lt_size member⟩

/-- What has been added is read as its expression as long as no node of it is removed. -/
theorem Coherent.typeExpr?_later : later.typeExpr? (some (forest.addType expr).1) = some expr := by
  obtain ⟨added, spells⟩ := addType_added coherent expr
  have new := added.fresh _ (List.mem_singleton_self _)
  have nesting := (spells.nesting_le added.coherent).trans new.2.le
  rw [typeExpr?, typeExprWithin_congr _
    (fun id new => coherent.typeReference?_later expr fades alive new) _ new]
  exact spells.typeExprWithin later.size (nesting.trans fades.size_le)

end Later

/-- Nothing of an added expression is lost. After every history it becomes one new node for each of
its parts, behind all earlier nodes, which stay as they are; the last of them is its root, and is
detached. The children of a new node are its arguments, and its part is read back from it. The root
is read and printed as the expression after every later history that removes none of the new nodes,
whatever parents are given in it.
-/
theorem added_type_reads_back {forest : Forest} (reachable : Reachable Known forest)
    (expr : TypeExpr)
    : let root := (forest.addType expr).1
      let after := (forest.addType expr).2
      after.size = forest.size + expr.parts.length
      ∧ (∀ id < forest.size, after.nodes[id]? = forest.nodes[id]?)
      ∧ forest.interner.Extends after.interner
      ∧ root + 1 = after.size
      ∧ after.parentOf (some root) = none
      ∧ (∀ index part,
          expr.parts[index]? = some part
          → after.typeExpr? (some (forest.size + index)) = some part
            ∧ ∃ data,
                after.typeReference? (some (forest.size + index)) = some data
                ∧ after.childrenOf (some (forest.size + index)) = data.arguments)
      ∧ after.typeExpr? (some root) = some expr
      ∧ after.typeText? (some root) = some expr.spelling
      ∧ ∀ (rule : ParentRule) later,
          Edited rule after later
          → (∀ id, forest.size ≤ id ∧ id < after.size → later.kind? (some id) ≠ some .removed)
          → later.typeExpr? (some root) = some expr
            ∧ later.typeText? (some root) = some expr.spelling := by
  have coherent := Edited.coherent reachable known_stable empty_coherent
  obtain ⟨added, spells⟩ := addType_added coherent expr
  have spelled := addType_spelled coherent.named.consistent expr
  intro root after
  refine ⟨spelled.size_eq, added.grown.kept, added.grown.names, addType_root forest expr,
    parentOf_addType expr, ?_, spells.typeExpr? added.coherent, spells.typeText? added.coherent, ?_⟩
  · intro index part found
    have partSpells := spelled.spells index part found
    exact ⟨partSpells.typeExpr? added.coherent, partSpells.arguments⟩
  · intro rule later edited alive
    have read := coherent.typeExpr?_later expr (fades_persists.edited edited) alive
    exact ⟨read, by rw [typeText?_eq, read, Option.map_some]⟩

/-- An expression that no text spells: a name with an empty and with a dotted segment. -/
def unspelled : TypeExpr :=
  .named ["", "a.b"] [.star, .named [] [] true] false

/-- It is added behind a property that is then removed. -/
theorem unspelled_type_reads_back
    : let after := (retyped.addType unspelled).2
      let later := after.remove (some 1)
      Reachable Known retyped
      ∧ Edited Known after later
      ∧ (∀ id, retyped.size ≤ id ∧ id < after.size → later.kind? (some id) ≠ some .removed)
      ∧ after.size = retyped.size + 3
      ∧ later.typeExpr? (some (retyped.addType unspelled).1) = some unspelled
      ∧ later.typeText? (some (retyped.addType unspelled).1) = some unspelled.spelling := by
  have reachable := retyped_reachable.known
  have edited
      : Edited Known (retyped.addType unspelled).2
          ((retyped.addType unspelled).2.remove (some 1)) :=
    .step .refl (.remove (some 1)) known_none
  have first : retyped.size = 4 := by cbv
  have last : (retyped.addType unspelled).2.size = 7 := by cbv
  have star : ((retyped.addType unspelled).2.remove (some 1)).kind? (some 4)
      = some .typeReference := by cbv
  have nameless : ((retyped.addType unspelled).2.remove (some 1)).kind? (some 5)
      = some .typeReference := by cbv
  have root : ((retyped.addType unspelled).2.remove (some 1)).kind? (some 6)
      = some .typeReference := by cbv
  have alive
      : ∀ id,
          retyped.size ≤ id ∧ id < (retyped.addType unspelled).2.size
          → ((retyped.addType unspelled).2.remove (some 1)).kind? (some id) ≠ some .removed := by
    rintro id ⟨fresh, known⟩
    rw [first] at fresh
    rw [last] at known
    interval_cases id <;> simp [star, nameless, root]
  obtain ⟨size, _, _, _, _, _, _, _, outlives⟩ := added_type_reads_back reachable unspelled
  exact ⟨reachable, edited, alive, size, outlives Known _ edited alive⟩

end Forest

end PropertyLint
