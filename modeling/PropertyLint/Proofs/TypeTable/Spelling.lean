import PropertyLint.Proofs.TypeExpr.RoundTrip
import PropertyLint.Proofs.TypeTable.TypeTrees

/-! The spelling of a type is read back as its tree.
A type of the table is spelled layer by layer, an expression by recursion on its arguments. Both
make the same text of the same tree, so that what holds of the spellings of expressions holds of
those of types.
-/

namespace PropertyLint

open Text (joined)

namespace Text

/-- The pieces of a name between its dots. -/
def segments (name : String) : List String :=
  (name.toList.splitOn '.').map String.ofList

theorem toList_joined_dot (names : List String)
    : (joined "." names).toList = ['.'].intercalate (names.map String.toList) := by
  induction names with
  | nil => rfl
  | cons first rest ih =>
      cases rest with
      | nil => simp [joined]
      | cons second rest => simpa [joined, List.intercalate_cons_cons] using ih

/-- The pieces joined by dots are the name again. -/
theorem joined_segments (name : String) : joined "." (segments name) = name := by
  have pieces : (segments name).map String.toList = name.toList.splitOn '.' := by
    simp [segments, Function.comp_def]
  rw [← String.toList_inj, toList_joined_dot, pieces, List.intercalate_splitOn]

/-- Pieces without dots are found again. -/
theorem segments_joined {names : List String} (ne_nil : names ≠ [])
    (plain : ∀ name ∈ names, '.' ∉ name.toList)
    : segments (joined "." names) = names := by
  have apart : ∀ piece ∈ names.map String.toList, '.' ∉ piece := by simpa using plain
  rw [segments, toList_joined_dot, List.splitOn_intercalate '.' apart (by simpa using ne_nil)]
  simp [Function.comp_def]

end Text

/-- No dot stands in a name segment. -/
theorem IsTypeName.segments_joined {name : List String} (typeName : IsTypeName name)
    : Text.segments (joined "." name) = name := by
  refine Text.segments_joined typeName.ne_nil fun word member dot => ?_
  have part := (typeName.words word member).isIdentifierPart '.' dot
  exact absurd part (by decide)

namespace TypeTree

mutual

/-- The tree as an expression: class names are split at their dots. -/
def expr : TypeTree → TypeExpr
  | .applied name arguments nullable => .named (Text.segments name) (exprs arguments) nullable

def exprs : List TypeTree → List TypeExpr
  | [] => []
  | tree :: rest => tree.expr :: exprs rest

end

mutual

/-- All class names in the tree are qualified names that a type can have. -/
def WellNamed : TypeTree → Prop
  | .applied name arguments _ =>
    (∃ words, IsTypeName words ∧ joined "." words = name) ∧ AllWellNamed arguments

def AllWellNamed : List TypeTree → Prop
  | [] => True
  | tree :: rest => tree.WellNamed ∧ AllWellNamed rest

end

theorem expr_ne_star (tree : TypeTree) : tree.expr ≠ .star := by
  cases tree
  simp [expr]

mutual

theorem WellNamed.expr {tree : TypeTree} (named : tree.WellNamed) : tree.expr.WellNamed := by
  cases tree with
  | applied name arguments nullable =>
      simp only [WellNamed] at named
      obtain ⟨⟨words, typeName, rfl⟩, inner⟩ := named
      simp only [TypeTree.expr, TypeExpr.WellNamed, typeName.segments_joined]
      exact ⟨typeName, inner.exprs⟩
termination_by sizeOf tree

theorem AllWellNamed.exprs {trees : List TypeTree} (named : AllWellNamed trees)
    : TypeExpr.AllWellNamed (exprs trees) := by
  cases trees with
  | nil => trivial
  | cons tree rest =>
      simp only [AllWellNamed] at named
      exact ⟨named.1.expr, named.2.exprs⟩
termination_by sizeOf trees

end

end TypeTree

namespace TypeTable

variable {table : TypeTable}

mutual

/-- A type is spelled as the expression of its tree, by recursion on the tree. -/
theorem Denotes.display_eq (sound : table.Sound) {id : TypeId} {tree : TypeTree}
    (denotes : table.Denotes id tree)
    : table.display id = tree.expr.spelling := by
  cases denotes with
  | applied found inner =>
      rw [sound.display_eq, found]
      simp only [TypeTree.expr, TypeExpr.spelling, Text.joined_segments,
        inner.map_display sound]
termination_by sizeOf tree

theorem DenotesAll.map_display (sound : table.Sound) {ids : List TypeId} {trees : List TypeTree}
    (denotes : table.DenotesAll ids trees)
    : ids.map table.display = TypeExpr.spellings (TypeTree.exprs trees) := by
  cases denotes with
  | nil => rfl
  | cons first others =>
      simp only [List.map_cons, TypeTree.exprs, TypeExpr.spellings, first.display_eq sound,
        others.map_display sound]
termination_by sizeOf trees

end

end TypeTable

end PropertyLint
