import PropertyLint.Proofs.Forest.Walks

/-! What the walk below a root meets, seen from below.
The walk goes down the child lists and enters declarations only. A node is met exactly when the
parents above it lead to a node where the walk starts, over declarations only.
-/

namespace PropertyLint.Forest

variable {forest : Forest} {id root middle : NodeId}

/-- Following parents from a node reaches the root over declarations only, the node and the root
included: neither a type reference nor the remains of a removed node is met.
-/
inductive Ascends (forest : Forest) (root : NodeId) : NodeId → Prop
  | arrived (declared : forest.isDeclaration root) : Ascends forest root root
  | up {id parent} (declared : forest.isDeclaration id)
    (link : forest.parentOf (some id) = some parent) (above : Ascends forest root parent)
    : Ascends forest root id

/-- The ascent ends at a declaration, by induction on its steps. -/
theorem Ascends.declared_root (ascends : forest.Ascends root id) : forest.isDeclaration root := by
  induction ascends with
  | arrived declared => exact declared
  | up _ _ _ ih => exact ih

theorem Ascends.trans (first : forest.Ascends middle id) (second : forest.Ascends root middle)
    : forest.Ascends root id := by
  induction first with
  | arrived _ => exact second
  | up declared link _ ih => exact .up declared link ih

/-- Below a declaration stand the declaration itself and what stands below its children. -/
theorem Linked.ascends_iff (linked : forest.Linked) (declared : forest.isDeclaration root)
    : forest.Ascends root id
      ↔ id = root ∨ ∃ child ∈ forest.childrenOf (some root), forest.Ascends child id := by
  constructor
  · intro ascends
    induction ascends with
    | arrived _ => exact Or.inl rfl
    | @up id parent inner link _ ih =>
        rcases ih with rfl | ⟨child, listed, above⟩
        · exact Or.inr ⟨id, (linked.link parent id).mpr link, .arrived inner⟩
        · exact Or.inr ⟨child, listed, .up inner link above⟩
  · rintro (rfl | ⟨child, listed, ascends⟩)
    · exact .arrived declared
    · have link := (linked.link root child).mp listed
      exact ascends.trans (.up ascends.declared_root link (.arrived declared))

/-- A walk lists the properties from which an ascent leads to a pending node, by induction on its
turns: an ascent to a node that is entered starts there or leads through one of its children.
-/
theorem Walk.mem_iff {pending result : List NodeId} (walk : forest.Walk pending result)
    (linked : forest.Linked)
    : id ∈ result
      ↔ (∃ data, forest.property? (some id) = some data)
        ∧ ∃ start ∈ pending, forest.Ascends start id := by
  induction walk with
  | done => simp
  | @skip first pending result leaf _ ih =>
      have passed : ¬ forest.Ascends first id := by
        intro ascends
        rw [ascends.declared_root] at leaf
        cases leaf
      simp [ih, passed]
  | @enter first pending result inner other _ ih =>
      have start : (∃ data, forest.property? (some id) = some data) → id ≠ first := by
        rintro ⟨data, property⟩ rfl
        rw [other] at property
        cases property
      rw [ih]
      refine and_congr_right fun property => ?_
      simp only [List.exists_mem_cons_iff, linked.ascends_iff inner, start property, false_or,
        List.mem_append, or_and_right, exists_or]
  | @list first data pending result property _ ih =>
      have inner := isDeclaration_of_property property
      rw [List.mem_cons, ih]
      simp only [List.exists_mem_cons_iff, linked.ascends_iff inner, List.mem_append, or_and_right,
        exists_or, or_assoc]
      constructor
      · rintro (rfl | ⟨found, later⟩)
        · exact ⟨⟨data, property⟩, Or.inl rfl⟩
        · exact ⟨found, Or.inr later⟩
      · rintro ⟨found, same | later⟩
        · exact Or.inl same
        · exact Or.inr ⟨found, later⟩

/-- The query lists the properties from which an ascent leads to the root. -/
theorem Coherent.mem_properties_iff (coherent : forest.Coherent) (layered : forest.Layered)
    {ref : NodeRef}
    : id ∈ forest.properties ref
      ↔ (∃ data, forest.property? (some id) = some data)
        ∧ ∃ root, ref = some root ∧ forest.Ascends root id := by
  rw [(coherent.walk_properties layered ref).1.mem_iff coherent.linked]
  simp only [Option.mem_toList]

end PropertyLint.Forest
