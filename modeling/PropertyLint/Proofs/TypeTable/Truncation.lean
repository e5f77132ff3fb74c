import PropertyLint.Proofs.TypeTable.Spelling
import PropertyLint.Proofs.TypeTable.Substitution

/-! The text of a supertype is the text of its type cut off below the first level.
A supertype is spelled by class names only. This gives the same text as spelling the whole tree
after its marks for nullability and the arguments of its arguments have been dropped, so that the
text is read back as what is left of the tree, however deep the type is.
-/

namespace PropertyLint

open Text (joined)

/-- Whether the name of a class can be written as a type: segments that a type can have, joined by
dots.
-/
def IsQualifiedName (name : String) : Prop :=
  ∃ words, IsTypeName words ∧ joined "." words = name

namespace TypeTree

/-- The class that the type applies. -/
def head : TypeTree → String
  | .applied name _ _ => name

def arguments : TypeTree → List TypeTree
  | .applied _ arguments _ => arguments

/-- What is left of a type one level deep: of its arguments only the classes, and no mark for
nullability.
-/
def truncated (tree : TypeTree) : TypeTree :=
  .applied tree.head ((tree.arguments.map head).map simple) false

/-- Whether the type is one level deep: neither it nor an argument of it is nullable, and its
arguments have none of their own.
-/
def IsFlat : TypeTree → Prop
  | .applied _ arguments nullable =>
    nullable = false ∧ ∀ argument ∈ arguments, ∃ name, argument = .simple name

variable {tree : TypeTree}

theorem IsFlat.truncated_eq (flat : tree.IsFlat) : tree.truncated = tree := by
  cases tree with
  | applied name arguments nullable =>
      obtain ⟨rfl, plain⟩ := flat
      have same : (arguments.map head).map simple = arguments := by
        rw [List.map_map]
        refine (List.map_congr_left fun argument member => ?_).trans (List.map_id arguments)
        obtain ⟨name, rfl⟩ := plain argument member
        rfl
      rw [truncated, TypeTree.arguments, same, head]

/-- Classes alone are spelled by their names. -/
theorem spellings_simple (names : List String)
    : TypeExpr.spellings (exprs (names.map simple)) = names := by
  induction names with
  | nil => rfl
  | cons name rest ih =>
      simp [exprs, TypeExpr.spellings, ih, simple, expr, TypeExpr.spelling, spellType,
        Text.joined_segments]

/-- Classes alone have no argument lists. -/
theorem nestingAll_simple (names : List String)
    : TypeExpr.nestingAll (exprs (names.map simple)) = 0 := by
  induction names with
  | nil => rfl
  | cons name rest ih => simp [exprs, TypeExpr.nestingAll, ih, simple, expr, TypeExpr.nesting]

/-- What is left of a type is far from the nesting limit. -/
theorem nesting_truncated_le (tree : TypeTree) : tree.truncated.expr.nesting ≤ maxTypeNesting := by
  have level := TypeExpr.nesting_named_le (Text.segments tree.head)
    (exprs ((tree.arguments.map head).map simple)) false
  rw [nestingAll_simple] at level
  exact Nat.le_trans level (by decide)

theorem allWellNamed_simple {names : List String} (named : ∀ name ∈ names, IsQualifiedName name)
    : AllWellNamed (names.map simple) := by
  induction names with
  | nil => trivial
  | cons name rest ih =>
      obtain ⟨first, others⟩ := List.forall_mem_cons.mp named
      simp only [List.map_cons, AllWellNamed, simple, WellNamed, and_true]
      exact ⟨first, ih others⟩

end TypeTree

namespace SealedTable

variable {sealed : SealedTable} {id : TypeId} {tree : TypeTree}

theorem headName_eq (denotes : sealed.table.Denotes id tree) : sealed.headName id = tree.head := by
  cases denotes with
  | applied found _ => simp [headName, found, TypeTree.head]

theorem map_headName_eq {ids : List TypeId} {trees : List TypeTree}
    (denotes : sealed.table.DenotesAll ids trees)
    : ids.map sealed.headName = trees.map TypeTree.head := by
  induction ids generalizing trees with
  | nil =>
      cases denotes
      rfl
  | cons id ids ih =>
      cases denotes with
      | cons first others => rw [List.map_cons, List.map_cons, headName_eq first, ih others]

theorem map_headName_arguments (denotes : sealed.table.Denotes id tree)
    : (sealed.service.arguments id).map sealed.service.headName
      = tree.arguments.map TypeTree.head := by
  cases denotes with
  | applied found inner =>
      have arguments := map_headName_eq inner
      simpa [service, SealedTable.arguments, found, TypeTree.arguments] using arguments

/-- The class names that are spelled for a supertype are those that are left in its tree. -/
theorem supertypeText_eq (denotes : sealed.table.Denotes id tree)
    : sealed.service.supertypeText id = tree.truncated.expr.spelling := by
  have head : sealed.service.headName id = tree.head := headName_eq denotes
  rw [TypeService.supertypeText, head, map_headName_arguments denotes, TypeTree.truncated,
    TypeTree.expr, TypeExpr.spelling, Text.joined_segments, TypeTree.spellings_simple]

/-- When the class names of a type and of its arguments can be written, so can all that is left of
its tree.
-/
theorem wellNamed_truncated (denotes : sealed.table.Denotes id tree)
    (named : IsQualifiedName (sealed.service.headName id))
    (inner : ∀ argument ∈ sealed.service.arguments id,
      IsQualifiedName (sealed.service.headName argument))
    : tree.truncated.WellNamed := by
  have head : sealed.service.headName id = tree.head := headName_eq denotes
  have names : ∀ name ∈ tree.arguments.map TypeTree.head, IsQualifiedName name := by
    rw [← map_headName_arguments denotes]
    exact List.forall_mem_map.mpr inner
  rw [TypeTree.truncated, TypeTree.WellNamed, ← head]
  exact ⟨named, TypeTree.allWellNamed_simple names⟩

end SealedTable

namespace TypeTable

/-- Every type of a sealed table stands for a tree, and the text of the type as a supertype is the
spelling of what is left of the tree one level deep: no mark for nullability, and of each argument
its class only. When the class names that this leaves can be written, the text is read as just that,
however deep the type is; and a type that is one level deep already is spelled in full by it.
-/
theorem supertype_text_truncates {table : TypeTable} (reachable : Reachable table) {type : TypeId}
    (known : type < table.seal.table.size)
    : let service := table.seal.service
      let text := service.supertypeText type
      ∃ tree,
        table.seal.table.Denotes type tree
        ∧ tree.truncated.expr.spelling = text
        ∧ (IsQualifiedName (service.headName type)
            → (∀ argument ∈ service.arguments type, IsQualifiedName (service.headName argument))
            → TypeExpr.parse text = .ok tree.truncated.expr)
        ∧ (tree.IsFlat → text = service.display type) := by
  intro service text
  have sound := reachable.sound.sealed.1.sound
  obtain ⟨tree, denotes⟩ := sound.exists_denotes known
  have spelled : text = tree.truncated.expr.spelling := SealedTable.supertypeText_eq denotes
  refine ⟨tree, denotes, spelled.symm, ?_, ?_⟩
  · intro named inner
    have wellNamed := (SealedTable.wellNamed_truncated denotes named inner).expr
    rw [spelled]
    exact wellNamed.parse_spelling tree.truncated.expr_ne_star tree.nesting_truncated_le
  · intro flat
    have display : service.display type = tree.expr.spelling := denotes.display_eq sound
    rw [spelled, display, flat.truncated_eq]

/-- A table with a nullable map, one of whose arguments is nullable and has an argument itself. -/
def atlas : TypeTable :=
  [.classType "Int" [],
    .classType "List" [0],
    .nullable 1,
    .classType "kotlin.Map" [0, 2],
    .nullable 3].foldl TableCall.apply .empty

theorem atlas_reachable : Reachable atlas := by
  have number := Reachable.empty.step (.classType "Int" [])
    (by simp [TableCall.Allowed, TableCall.arguments])
  have list := number.step (.classType "List" [0]) (by
    intro argument member
    obtain rfl := List.mem_singleton.mp member
    cbv)
  have nullable := list.step (.nullable 1) (by simp [TableCall.Allowed, TableCall.arguments])
  refine (nullable.step (.classType "kotlin.Map" [0, 2]) ?_).step (.nullable 3)
    (by simp [TableCall.Allowed, TableCall.arguments])
  intro argument member
  rcases List.mem_cons.mp member with rfl | member
  · cbv
  · obtain rfl := List.mem_singleton.mp member
    cbv

/-- Of the nullable map the text keeps the two classes of its arguments, and is read as such; the
list of numbers is spelled in full.
-/
theorem atlas_supertype_texts
    : Reachable atlas
      ∧ atlas.seal.service.display 4 = "kotlin.Map<Int, List<Int>?>?"
      ∧ (∃ tree,
          atlas.seal.table.Denotes 4 tree
          ∧ tree.truncated.expr.spelling = "kotlin.Map<Int, List>"
          ∧ TypeExpr.parse "kotlin.Map<Int, List>" = .ok tree.truncated.expr)
      ∧ atlas.seal.service.supertypeText 1 = atlas.seal.service.display 1 := by
  have display : atlas.seal.service.display 4 = "kotlin.Map<Int, List<Int>?>?" := by cbv
  have text : atlas.seal.service.supertypeText 4 = "kotlin.Map<Int, List>" := by cbv
  have size : atlas.seal.table.size = 5 := by cbv
  have mapName : atlas.seal.service.headName 4 = "kotlin.Map" := by cbv
  have arguments : atlas.seal.service.arguments 4 = [0, 2] := by cbv
  have numberName : atlas.seal.service.headName 0 = "Int" := by cbv
  have nullableName : atlas.seal.service.headName 2 = "List" := by cbv
  have numberFound : atlas.seal.table.get? 0 = some ⟨2, [], false⟩ := by cbv
  have listFound : atlas.seal.table.get? 1 = some ⟨3, [0], false⟩ := by cbv
  have known : 4 < atlas.seal.table.size := by rw [size]; decide
  have listKnown : 1 < atlas.seal.table.size := by rw [size]; decide
  obtain ⟨tree, denotes, spelled, reads, _⟩ := supertype_text_truncates atlas_reachable known
  obtain ⟨list, listDenotes, _, _, full⟩ := supertype_text_truncates atlas_reachable listKnown
  have named : IsQualifiedName "kotlin.Map" := ⟨["kotlin", "Map"], by decide +kernel, rfl⟩
  have inner : ∀ argument ∈ [0, 2],
      IsQualifiedName (atlas.seal.service.headName argument) := by
    simp only [List.forall_mem_cons, numberName, nullableName]
    exact ⟨⟨["Int"], by decide +kernel, rfl⟩, ⟨["List"], by decide +kernel, rfl⟩, by simp⟩
  rw [mapName, arguments, text] at reads
  have flat : list.IsFlat := by
    have whole := TypeTable.Denotes.applied listFound (.cons (.applied numberFound .nil) .nil)
    rw [listDenotes.unique whole]
    simp [TypeTree.IsFlat, TypeTree.simple]
  exact ⟨atlas_reachable, display, ⟨tree, denotes, spelled.trans text, reads named inner⟩,
    full flat⟩

end TypeTable

end PropertyLint
