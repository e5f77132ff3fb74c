import PropertyLint.Proofs.Forest.Links
import PropertyLint.Proofs.Forest.ReadBack
import PropertyLint.Proofs.TypeExpr.Nesting

/-! Type expressions as nodes.
A type reference and the nodes below it spell an expression. Adding an expression makes such a
tree from fresh nodes, and the tree is printed with the spelling of the expression for as long as
nothing at or below its root changes.
-/

namespace PropertyLint.Forest

variable {forest before after : Forest} {id parent : NodeId} {ids : List NodeId}

mutual

/-- The type reference at an index and those below it spell the expression. The arguments are
named twice, in the content and as children.
-/
def Spells (forest : Forest) : TypeExpr → NodeId → Prop
  | .star, id =>
    forest.content? (some id) = some (.typeReference .star) ∧ forest.childrenOf (some id) = []
  | .named name arguments nullable, id =>
    ∃ atoms ids,
      forest.content? (some id) = some (.typeReference (.named atoms ids nullable))
      ∧ forest.childrenOf (some id) = ids
      ∧ forest.interner.Names atoms name
      ∧ forest.SpellsAll arguments ids

/-- The indices spell the expressions, one by one. -/
def SpellsAll (forest : Forest) : List TypeExpr → List NodeId → Prop
  | [], ids => ids = []
  | expr :: rest, ids =>
    ∃ id later, ids = id :: later ∧ forest.Spells expr id ∧ forest.SpellsAll rest later

end

/-- The root of a tree is a type reference. -/
theorem Spells.typed {expr : TypeExpr} (spells : forest.Spells expr id)
    : forest.isTypeReference id := by
  cases expr with
  | star =>
      simp only [Spells] at spells
      exact isTypeReference_iff.mpr ⟨_, spells.1⟩
  | named name arguments nullable =>
      simp only [Spells] at spells
      obtain ⟨atoms, ids, content, _⟩ := spells
      exact isTypeReference_iff.mpr ⟨_, content⟩

/-- Nothing at or below a node has another content or other children than before. -/
def KeptBelow (before after : Forest) (root : NodeId) : Prop :=
  ∀ id,
    before.Below root id
    → after.content? (some id) = before.content? (some id)
      ∧ after.childrenOf (some id) = before.childrenOf (some id)

theorem KeptBelow.child {root child : NodeId} (kept : KeptBelow before after root)
    (listed : child ∈ before.childrenOf (some root))
    : KeptBelow before after child :=
  fun id below => kept id (.head (lists_iff.mpr listed) below)

mutual

/-- A tree that is kept spells the same expression, by recursion on the expression. -/
theorem Spells.keep (names : before.interner.Extends after.interner) {expr : TypeExpr}
    {id : NodeId} (spells : before.Spells expr id) (kept : KeptBelow before after id)
    : after.Spells expr id := by
  obtain ⟨content, children⟩ := kept id .refl
  cases expr with
  | star =>
      simp only [Spells] at spells ⊢
      rwa [content, children]
  | named name arguments nullable =>
      simp only [Spells] at spells ⊢
      obtain ⟨atoms, ids, found, listed, named, rest⟩ := spells
      refine ⟨atoms, ids, content.trans found, children.trans listed, named.extend names, ?_⟩
      exact rest.keep names fun child member => kept.child (listed ▸ member)
termination_by sizeOf expr

/-- Kept trees spell the same expressions, by recursion on the list. -/
theorem SpellsAll.keep (names : before.interner.Extends after.interner)
    {exprs : List TypeExpr} {ids : List NodeId} (spells : before.SpellsAll exprs ids)
    (kept : ∀ id ∈ ids, KeptBelow before after id)
    : after.SpellsAll exprs ids := by
  cases exprs with
  | nil => exact spells
  | cons expr rest =>
      simp only [SpellsAll] at spells ⊢
      obtain ⟨id, later, rfl, first, others⟩ := spells
      refine ⟨id, later, rfl, first.keep names (kept id (by simp)), ?_⟩
      exact others.keep names fun child member => kept child (by simp [member])
termination_by sizeOf exprs

end

mutual

/-- A tree and all that is listed below its root exist, by recursion on the expression. -/
theorem Spells.below_lt_size {expr : TypeExpr} {id child : NodeId}
    (spells : forest.Spells expr id) (below : forest.Below id child)
    : child < forest.size := by
  rcases below.cases_head with rfl | ⟨next, listed, below⟩
  · exact isTypeReference_lt_size spells.typed
  · rw [lists_iff] at listed
    cases expr with
    | star =>
        simp only [Spells] at spells
        rw [spells.2] at listed
        cases listed
    | named name arguments nullable =>
        simp only [Spells] at spells
        obtain ⟨_, ids, _, children, _, rest⟩ := spells
        exact rest.below_lt_size (children ▸ listed) below
termination_by sizeOf expr

theorem SpellsAll.below_lt_size {exprs : List TypeExpr} {ids : List NodeId} {root child : NodeId}
    (spells : forest.SpellsAll exprs ids) (member : root ∈ ids) (below : forest.Below root child)
    : child < forest.size := by
  cases exprs with
  | nil =>
      simp only [SpellsAll] at spells
      subst spells
      cases member
  | cons expr rest =>
      simp only [SpellsAll] at spells
      obtain ⟨id, later, rfl, first, others⟩ := spells
      rcases List.mem_cons.mp member with rfl | member
      · exact first.below_lt_size below
      · exact others.below_lt_size member below
termination_by sizeOf exprs

end

-----------------------------------------------------------------------------------------
-- A tree is read back as its expression
-----------------------------------------------------------------------------------------

mutual

/-- A tree is read back as its expression, given a budget beyond its nesting. -/
theorem Spells.typeExprWithin {expr : TypeExpr} {id : NodeId}
    (spells : forest.Spells expr id) (budget : Nat) (enough : expr.nesting ≤ budget)
    : forest.typeExprWithin (budget + 1) (some id) = some expr := by
  cases expr with
  | star =>
      simp only [Spells] at spells
      simp [Forest.typeExprWithin, typeReference?_eq_some_iff.mpr spells.1]
  | named name arguments nullable =>
      simp only [Spells] at spells
      obtain ⟨atoms, ids, content, _, named, rest⟩ := spells
      have exprs := rest.mapM_typeExprWithin budget (by
        intro applied
        rw [TypeExpr.nesting_named applied] at enough
        exact enough)
      simp [Forest.typeExprWithin, typeReference?_eq_some_iff.mpr content, exprs, named.resolve]
termination_by sizeOf expr

/-- Trees are read back as their expressions, by recursion on the list. -/
theorem SpellsAll.mapM_typeExprWithin {exprs : List TypeExpr} {ids : List NodeId}
    (spells : forest.SpellsAll exprs ids) (budget : Nat)
    (enough : exprs ≠ [] → TypeExpr.nestingAll exprs < budget)
    : (ids.mapM fun id => forest.typeExprWithin budget (some id)) = some exprs := by
  cases exprs with
  | nil =>
      simp only [SpellsAll] at spells
      simp [spells]
  | cons expr rest =>
      simp only [SpellsAll] at spells
      obtain ⟨id, later, rfl, first, others⟩ := spells
      have bound := enough (by simp)
      simp only [TypeExpr.nestingAll] at bound
      cases budget with
      | zero => omega
      | succ budget =>
          have read := first.typeExprWithin budget (by omega)
          have reads := others.mapM_typeExprWithin (budget + 1) (fun _ => by omega)
          simp [List.mapM_cons, read, reads]
termination_by sizeOf exprs

end

/-- A tree is printed as its expression is spelled. -/
theorem Spells.typeTextWithin {expr : TypeExpr} (spells : forest.Spells expr id) (budget : Nat)
    (enough : expr.nesting ≤ budget)
    : forest.typeTextWithin (budget + 1) (some id) = some expr.spelling := by
  rw [typeTextWithin_eq, spells.typeExprWithin budget enough, Option.map_some]

mutual

/-- A tree nests no deeper than its root's index says, as arguments come before their types. -/
theorem Spells.nesting_le (coherent : forest.Coherent) {expr : TypeExpr} {id : NodeId}
    (spells : forest.Spells expr id)
    : expr.nesting ≤ id := by
  have typed := spells.typed
  cases expr with
  | star => exact Nat.zero_le _
  | named name arguments nullable =>
      simp only [Spells] at spells
      obtain ⟨atoms, ids, _, listed, _, rest⟩ := spells
      by_cases applied : arguments = []
      · subst arguments
        exact Nat.zero_le _
      · rw [TypeExpr.nesting_named applied]
        refine rest.nesting_lt coherent applied fun child member childTyped => ?_
        have link := (coherent.linked.link id child).mp (listed ▸ member)
        exact coherent.ordered.argument link typed childTyped
termination_by sizeOf expr

/-- Trees whose roots lie below a bound nest less deep than the bound. -/
theorem SpellsAll.nesting_lt (coherent : forest.Coherent) {exprs : List TypeExpr}
    {ids : List NodeId} {bound : Nat} (spells : forest.SpellsAll exprs ids)
    (applied : exprs ≠ []) (below : ∀ id ∈ ids, forest.isTypeReference id → id < bound)
    : TypeExpr.nestingAll exprs < bound := by
  cases exprs with
  | nil => exact absurd rfl applied
  | cons expr rest =>
      simp only [SpellsAll] at spells
      obtain ⟨id, later, rfl, first, others⟩ := spells
      have nesting := first.nesting_le coherent
      have root := below id (by simp) first.typed
      refine Nat.max_lt.mpr ⟨Nat.lt_of_le_of_lt nesting root, ?_⟩
      by_cases more : rest = []
      · subst rest
        exact Nat.lt_of_le_of_lt (Nat.zero_le _) root
      · exact others.nesting_lt coherent more fun child member => below child (by simp [member])
termination_by sizeOf exprs

end

/-- The number of nodes is budget enough for a tree. -/
theorem Spells.typeExpr? (coherent : forest.Coherent) {expr : TypeExpr}
    (spells : forest.Spells expr id)
    : forest.typeExpr? (some id) = some expr := by
  have nesting := spells.nesting_le coherent
  have known := isTypeReference_lt_size spells.typed
  exact spells.typeExprWithin forest.size (Nat.le_of_lt (Nat.lt_of_le_of_lt nesting known))

/-- The canonical spelling of a tree is that of its expression. -/
theorem Spells.typeText? (coherent : forest.Coherent) {expr : TypeExpr}
    (spells : forest.Spells expr id)
    : forest.typeText? (some id) = some expr.spelling := by
  rw [typeText?_eq, spells.typeExpr? coherent, Option.map_some]

end PropertyLint.Forest
