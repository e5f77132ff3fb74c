import Mathlib.Data.List.Nodup
import Mathlib.Order.WellFounded
import PropertyLint.Proofs.Forest.EditHistory

/-! Walks end when no declaration stands below a type reference.
Each walk is also given as a loop without a budget, one rule for each turn. The loops end from
every index, and the budgets of the queries are large enough to follow them to their end.
-/

namespace PropertyLint.Forest

open Relation (ReflTransGen TransGen)

-----------------------------------------------------------------------------------------
-- Climb and walk as loops without a budget
-----------------------------------------------------------------------------------------

/-- The climb from a reference along the parents: it stops at a source file, or where no node is.
-/
inductive Climb (forest : Forest) : NodeRef → Option String → Prop
  | lost {ref} (missing : forest.node? ref = none) : Climb forest ref none
  | arrived {ref node fileName} (found : forest.node? ref = some node)
    (file : node.data = .sourceFile fileName)
    : Climb forest ref (some fileName)
  | up {ref node result} (found : forest.node? ref = some node) (inner : node.kind ≠ .sourceFile)
    (above : Climb forest node.parent result)
    : Climb forest ref result

/-- Whether a declaration stands at the index: a node other than a type reference or what removal
leaves of a node.
-/
def isDeclaration (forest : Forest) (id : NodeId) : Bool :=
  match forest.kind? (some id) with
  | none | some .typeReference | some .removed => false
  | some _ => true

/-- The walk over pending nodes and what is below them: it passes over what is no declaration and
lists the properties among the others.
-/
inductive Walk (forest : Forest) : List NodeId → List NodeId → Prop
  | done : Walk forest [] []
  | skip {id pending result} (leaf : forest.isDeclaration id = false)
    (rest : Walk forest pending result)
    : Walk forest (id :: pending) result
  | enter {id pending result} (inner : forest.isDeclaration id)
    (other : forest.property? (some id) = none)
    (rest : Walk forest (forest.childrenOf (some id) ++ pending) result)
    : Walk forest (id :: pending) result
  | list {id data pending result} (property : forest.property? (some id) = some data)
    (rest : Walk forest (forest.childrenOf (some id) ++ pending) result)
    : Walk forest (id :: pending) (id :: result)

variable {forest : Forest} {id parent child root : NodeId} {ref : NodeRef}

theorem eq_sourceFile_of_kind {data : NodeData} (kind : data.kind = .sourceFile)
    : ∃ fileName, data = .sourceFile fileName := by
  cases data <;> first | exact ⟨_, rfl⟩ | cases kind

theorem isDeclaration_iff {data : NodeData} (content : forest.content? (some id) = some data)
    : forest.isDeclaration id ↔ data.kind ≠ .typeReference ∧ data.kind ≠ .removed := by
  unfold isDeclaration
  rw [kind?_eq, content]
  cases data <;> simp [NodeData.kind]

theorem isDeclaration_of_property {data : PropertyData}
    (property : forest.property? (some id) = some data)
    : forest.isDeclaration id :=
  (isDeclaration_iff (property?_eq_some_iff.mp property)).mpr (by simp [NodeData.kind])

theorem property?_of_leaf (leaf : forest.isDeclaration id = false)
    : forest.property? (some id) = none := by
  cases property : forest.property? (some id) with
  | none => rfl
  | some data =>
      rw [isDeclaration_of_property property] at leaf
      cases leaf

/-- Pending nodes that are no declarations are passed over, by induction on them. -/
theorem Walk.skip_leaves {leaves pending result : List NodeId} (walk : forest.Walk pending result)
    (leaf : ∀ id ∈ leaves, forest.isDeclaration id = false)
    : forest.Walk (leaves ++ pending) result := by
  induction leaves with
  | nil => exact walk
  | cons id later ih =>
      have rest := ih fun id member => leaf id (List.mem_cons_of_mem _ member)
      exact .skip (leaf id List.mem_cons_self) rest

/-- A climb has one result, by induction on its turns. -/
theorem Climb.deterministic {left right : Option String} (first : forest.Climb ref left)
    (second : forest.Climb ref right)
    : left = right := by
  induction first with
  | lost missing =>
      cases second with
      | lost _ => rfl
      | arrived found _ | up found _ _ =>
          rw [missing] at found
          cases found
  | arrived found file =>
      cases second with
      | lost missing =>
          rw [missing] at found
          cases found
      | arrived again other =>
          obtain rfl := Option.some.inj (found.symm.trans again)
          rw [file] at other
          cases other
          rfl
      | up again inner _ =>
          obtain rfl := Option.some.inj (found.symm.trans again)
          simp [Node.kind, file, NodeData.kind] at inner
  | up found inner _ ih =>
      cases second with
      | lost missing =>
          rw [missing] at found
          cases found
      | arrived again file =>
          obtain rfl := Option.some.inj (found.symm.trans again)
          simp [Node.kind, file, NodeData.kind] at inner
      | up again _ above =>
          obtain rfl := Option.some.inj (found.symm.trans again)
          exact ih above

/-- A walk has one result, by induction on its turns. -/
theorem Walk.deterministic {pending left right : List NodeId} (first : forest.Walk pending left)
    (second : forest.Walk pending right)
    : left = right := by
  induction first generalizing right with
  | done =>
      cases second
      rfl
  | skip leaf _ ih =>
      cases second with
      | skip _ rest => exact ih rest
      | enter inner _ _ => simp [leaf] at inner
      | list property _ => simp [isDeclaration_of_property property] at leaf
  | enter inner other _ ih =>
      cases second with
      | skip leaf _ => simp [leaf] at inner
      | enter _ _ rest => exact ih rest
      | list property _ => simp [other] at property
  | list property _ ih =>
      cases second with
      | skip leaf _ => simp [isDeclaration_of_property property] at leaf
      | enter _ other _ => simp [property] at other
      | list _ rest => rw [ih rest]

-----------------------------------------------------------------------------------------
-- No node is its own ancestor
-----------------------------------------------------------------------------------------

/-- The first node is the parent of the second one. -/
def IsParent (forest : Forest) (parent child : NodeId) : Prop :=
  forest.parentOf (some child) = some parent

/-- No node is its own ancestor. -/
def Acyclic (forest : Forest) : Prop :=
  ∀ id, ¬ TransGen forest.IsParent id id

/-- A place in an order in which every parent comes before its children: declarations by index,
then type references by index downwards.
-/
def rank (forest : Forest) (id : NodeId) : Nat :=
  if forest.isTypeReference id then 2 * forest.size - id else id

theorem Coherent.rank_lt (coherent : forest.Coherent) (layered : forest.Layered)
    (link : forest.parentOf (some child) = some parent)
    : forest.rank parent < forest.rank child := by
  have above := coherent.linked.parent_lt_size link
  have below := parentOf_lt_size link
  unfold rank
  cases typedChild : forest.isTypeReference child with
  | false =>
      have older := coherent.ordered.declaration link typedChild
      cases typedParent : forest.isTypeReference parent with
      | false => simpa using older
      | true =>
          rw [layered parent child link typedParent] at typedChild
          cases typedChild
  | true =>
      cases typedParent : forest.isTypeReference parent with
      | false =>
          simp only [NodeId, Bool.false_eq_true, if_false, if_true] at *
          omega
      | true =>
          have newer := coherent.ordered.argument link typedParent typedChild
          simp only [NodeId, if_true] at *
          omega

/-- Every chain of parents ends: the ranks along it go down. -/
theorem Coherent.wellFounded_isParent (coherent : forest.Coherent) (layered : forest.Layered)
    : WellFounded forest.IsParent :=
  Subrelation.wf (fun link => coherent.rank_lt layered link) (measure forest.rank).wf

theorem Coherent.acyclic (coherent : forest.Coherent) (layered : forest.Layered)
    : forest.Acyclic :=
  fun id => (coherent.wellFounded_isParent layered).transGen.irrefl.irrefl id

/-- The rank goes up along a descent. -/
theorem Coherent.rank_le_of_below (coherent : forest.Coherent) (layered : forest.Layered)
    (below : forest.Below root id)
    : forest.rank root ≤ forest.rank id := by
  induction below with
  | refl => exact Nat.le_refl _
  | tail _ listed ih =>
      have link := coherent.linked.lists_iff.mp listed
      exact Nat.le_trans ih (Nat.le_of_lt (coherent.rank_lt layered link))

/-- Distinct existing nodes are no more than the size says. -/
theorem length_le_size {ids : List NodeId} (unique : ids.Nodup)
    (known : ∀ id ∈ ids, id < forest.size)
    : ids.length ≤ forest.size := by
  have included : ids ⊆ List.range forest.size := fun id member =>
    List.mem_range.mpr (known id member)
  simpa using unique.length_le_of_subset included

-----------------------------------------------------------------------------------------
-- The number of nodes is budget enough for the climb
-----------------------------------------------------------------------------------------

/-- A climb within budget follows the loop. The present node is a proper ancestor of the nodes
passed so far, so these are distinct and as many as the budget that has been spent.
-/
theorem Acyclic.climb_within (acyclic : forest.Acyclic) (budget : Nat) (ref : NodeRef)
    (passed : List NodeId) (unique : passed.Nodup) (known : ∀ id ∈ passed, id < forest.size)
    (above : ∀ id ∈ passed, ∀ next, ref = some next → TransGen forest.IsParent next id)
    (enough : forest.size < budget + passed.length)
    : forest.Climb ref (forest.fileNameWithin budget ref) := by
  induction budget generalizing ref passed with
  | zero =>
      have bound := length_le_size unique known
      omega
  | succ budget ih =>
      unfold fileNameWithin
      split
      · rename_i missing
        exact .lost missing
      · rename_i node found
        split
        · rename_i fileName file
          exact .arrived found file
        · rename_i inner
          have notFile : node.kind ≠ .sourceFile := by
            intro kind
            obtain ⟨fileName, file⟩ := eq_sourceFile_of_kind kind
            exact inner fileName file
          refine .up found notFile ?_
          cases ref with
          | none => cases found
          | some id =>
              have fresh : id ∉ passed := fun member => acyclic id (above id member id rfl)
              have isParent (next : NodeId) (link : node.parent = some next)
                  : forest.IsParent next id :=
                parentOf_eq_some_iff.mpr ⟨node, found, link⟩
              refine ih node.parent (id :: passed) (List.nodup_cons.mpr ⟨fresh, unique⟩) ?_ ?_ ?_
              · intro other member
                rcases List.mem_cons.mp member with rfl | member
                · exact lt_size_of_found found
                · exact known other member
              · intro other member next link
                rcases List.mem_cons.mp member with rfl | member
                · exact .single (isParent next link)
                · exact .head (isParent next link) (above other member id rfl)
              · simp only [List.length_cons]
                omega

/-- The query for the file name follows the climb to its end. -/
theorem Acyclic.climb_fileName? (acyclic : forest.Acyclic) (ref : NodeRef)
    : forest.Climb ref (forest.fileName? ref) :=
  acyclic.climb_within (forest.size + 1) ref [] .nil (by simp) (by simp) (by simp)

theorem Acyclic.climb_iff (acyclic : forest.Acyclic) (ref : NodeRef) (result : Option String)
    : forest.Climb ref result ↔ result = forest.fileName? ref := by
  have climbed := acyclic.climb_fileName? ref
  exact ⟨fun climb => climb.deterministic climbed, fun same => same ▸ climbed⟩

-----------------------------------------------------------------------------------------
-- The walk meets no node twice
-----------------------------------------------------------------------------------------

/-- Where a walk below `root` stands. No node occurs twice, and every node but the root has come
in through a parent that has been visited.
-/
structure Frontier (forest : Forest) (root : NodeId) (visited pending : List NodeId) : Prop where
  unique : (visited ++ pending).Nodup
  known : ∀ id ∈ visited ++ pending, id < forest.size
  below : ∀ id ∈ visited ++ pending, forest.Below root id
  introduced
    : ∀ id ∈ visited ++ pending,
        id = root ∨ ∃ parent ∈ visited, forest.parentOf (some id) = some parent

theorem frontier_root (known : root < forest.size) : forest.Frontier root [] [root] where
  unique := by simp
  known := by simpa using known
  below := by simpa using .refl
  introduced := by simp

variable {visited pending : List NodeId}

/-- A visited node moves from the pending nodes to the visited ones. -/
theorem Frontier.pass (frontier : forest.Frontier root visited (id :: pending))
    : forest.Frontier root (id :: visited) pending := by
  have same {other : NodeId} : other ∈ id :: visited ++ pending
      ↔ other ∈ visited ++ id :: pending := by
    simp only [List.cons_append, List.mem_cons, List.mem_append]
    tauto
  exact {
    unique := (List.perm_middle.nodup_iff).mp frontier.unique
    known := fun other member => frontier.known other (same.mp member)
    below := fun other member => frontier.below other (same.mp member)
    introduced := fun other member => (frontier.introduced other (same.mp member)).imp_right
      fun ⟨parent, earlier, link⟩ => ⟨parent, List.mem_cons_of_mem id earlier, link⟩
  }

/-- The children of a visited node have not been met before: their only parent has just been
visited, and the root is below no node of its own tree.
-/
theorem Frontier.visit (coherent : forest.Coherent) (layered : forest.Layered)
    (frontier : forest.Frontier root visited (id :: pending))
    : forest.Frontier root (id :: visited) (forest.childrenOf (some id) ++ pending) := by
  have passed := frontier.pass
  obtain ⟨visitedUnique, pendingUnique, apart⟩ := List.nodup_append.mp passed.unique
  have linked := coherent.linked
  have link {child : NodeId} (listed : child ∈ forest.childrenOf (some id))
      : forest.parentOf (some child) = some id :=
    (linked.link id child).mp listed
  have below := frontier.below id (by simp)
  have unvisited : id ∉ visited := (List.nodup_cons.mp visitedUnique).1
  have fresh {child : NodeId} (listed : child ∈ forest.childrenOf (some id))
      : child ∉ visited ++ id :: pending := by
    intro met
    rcases frontier.introduced child met with rfl | ⟨parent, earlier, other⟩
    · have higher := coherent.rank_lt layered (link listed)
      have lower := coherent.rank_le_of_below layered below
      omega
    · rw [link listed] at other
      exact unvisited (Option.some.inj other ▸ earlier)
  have split {other : NodeId}
      (member : other ∈ id :: visited ++ (forest.childrenOf (some id) ++ pending))
      : other ∈ id :: visited ++ pending ∨ other ∈ forest.childrenOf (some id) := by
    simp only [List.mem_append] at member ⊢
    tauto
  refine ⟨?_, ?_, ?_, ?_⟩
  · refine List.nodup_append.mpr ⟨visitedUnique, ?_, ?_⟩
    · refine List.nodup_append.mpr ⟨linked.unique id, pendingUnique, ?_⟩
      intro child listed _ later equal
      subst equal
      exact fresh listed (by simp [later])
    · intro other earlier _ later equal
      subst equal
      rcases List.mem_append.mp later with listed | later
      · refine fresh listed ?_
        rcases List.mem_cons.mp earlier with rfl | earlier
        · simp
        · simp [earlier]
      · exact apart other earlier other later rfl
  · intro other member
    rcases split member with earlier | listed
    · exact passed.known other earlier
    · exact linked.child_lt_size listed
  · intro other member
    rcases split member with earlier | listed
    · exact passed.below other earlier
    · exact linked.below_child below (link listed)
  · intro other member
    rcases split member with earlier | listed
    · exact passed.introduced other earlier
    · exact Or.inr ⟨id, List.mem_cons_self, link listed⟩

/-- A walk within budget follows the loop and lists no node twice. The budget never runs out, as
each turn visits another existing node.
-/
theorem Frontier.walk (coherent : forest.Coherent) (layered : forest.Layered) (budget : Nat)
    (frontier : forest.Frontier root visited pending)
    (enough : forest.size < budget + visited.length)
    : forest.Walk pending (forest.propertiesFrom budget pending)
      ∧ (forest.propertiesFrom budget pending).Nodup
      ∧ ∀ id ∈ forest.propertiesFrom budget pending, id ∉ visited := by
  induction budget generalizing visited pending with
  | zero =>
      have unique := (List.nodup_append.mp frontier.unique).1
      have bound := length_le_size unique fun id member => frontier.known id (by simp [member])
      omega
  | succ budget ih =>
      cases pending with
      | nil => simpa [propertiesFrom] using .done
      | cons id pending =>
          obtain ⟨node, found⟩ := nodes_isSome_iff.mpr (frontier.known id (by simp))
          have content := content?_of_found found
          have children : node.children = forest.childrenOf (some id) := by
            simp [childrenOf, found]
          have later : forest.size < budget + (id :: visited).length := by
            simp only [List.length_cons]
            omega
          have unvisited : id ∉ visited := by
            have unique := (List.nodup_append.mp frontier.pass.unique).1
            exact (List.nodup_cons.mp unique).1
          have passed := ih frontier.pass later
          have entered := ih (frontier.visit coherent layered) later
          have spared {result : List NodeId} (fresh : ∀ other ∈ result, other ∉ id :: visited)
              : ∀ other ∈ result, other ∉ visited :=
            fun other member earlier => fresh other member (List.mem_cons_of_mem id earlier)
          simp only [propertiesFrom, node?_some, found, children]
          split
          · rename_i data property
            rw [property] at content
            refine ⟨.list (property?_eq_some_iff.mpr content) entered.1, ?_, ?_⟩
            · refine List.nodup_cons.mpr ⟨fun again => ?_, entered.2.1⟩
              exact entered.2.2 id again List.mem_cons_self
            · intro other member
              rcases List.mem_cons.mp member with rfl | member
              · exact unvisited
              · exact spared entered.2.2 other member
          · rename_i data type
            rw [type] at content
            have leaf : forest.isDeclaration id = false := by
              simp [Bool.eq_false_iff, isDeclaration_iff content, NodeData.kind]
            exact ⟨.skip leaf passed.1, passed.2.1, spared passed.2.2⟩
          · rename_i removed
            rw [removed] at content
            have leaf : forest.isDeclaration id = false := by
              simp [Bool.eq_false_iff, isDeclaration_iff content, NodeData.kind]
            exact ⟨.skip leaf passed.1, passed.2.1, spared passed.2.2⟩
          · rename_i noProperty noType alive
            have inner : forest.isDeclaration id := by
              rw [isDeclaration_iff content]
              cases data : node.data with
              | typeReference type => exact absurd data (noType type)
              | removed => exact absurd data alive
              | _ => simp [NodeData.kind]
            have other : forest.property? (some id) = none := by
              refine Option.eq_none_iff_forall_ne_some.mpr fun data property => ?_
              rw [property?_eq_some_iff, content] at property
              exact noProperty data (Option.some.inj property)
            exact ⟨.enter inner other entered.1, entered.2.1, spared entered.2.2⟩

/-- The query for the properties follows the walk to its end and lists each property once. A
missing root is passed over.
-/
theorem Coherent.walk_properties (coherent : forest.Coherent) (layered : forest.Layered)
    (root : NodeRef)
    : forest.Walk root.toList (forest.properties root) ∧ (forest.properties root).Nodup := by
  cases root with
  | none => simpa [properties, propertiesFrom] using .done
  | some root =>
      by_cases known : root < forest.size
      · have walked := (frontier_root known).walk coherent layered (forest.size + 1) (by simp)
        exact ⟨walked.1, walked.2.1⟩
      · have missing : forest.nodes[root]? = none := by simpa [size] using known
        have leaf : forest.isDeclaration root = false := by simp [isDeclaration, kind?, missing]
        have empty : forest.properties (some root) = [] := by
          simp only [properties, Option.toList_some, propertiesFrom, node?_some, missing]
          cases forest.size <;> rfl
        rw [empty]
        exact ⟨.skip leaf .done, .nil⟩

/-- After every history the links are sound: both directions agree, each child is listed once, and
what has been removed is detached. When no declaration was put below a type reference, parents
form no cycle, and the climb and the walk end from every index with what the queries return.
-/
theorem reachable_links_sound {forest : Forest} (reachable : Reachable Known forest)
    : (∀ child parent, forest.parentOf (some child) = some parent → parent < forest.size)
      ∧ (∀ parent child,
          child ∈ forest.childrenOf (some parent) ↔ forest.parentOf (some child) = some parent)
      ∧ (∀ parent child,
          child ∈ forest.childrenOf (some parent)
          → (forest.childrenOf (some parent)).count child = 1)
      ∧ (∀ id, forest.kind? (some id) = some .removed → forest.parentOf (some id) = none)
      ∧ (Reachable Declarable forest
          → WellFounded forest.IsParent
            ∧ (∀ id, ¬ TransGen forest.IsParent id id)
            ∧ (∀ ref result, forest.Climb ref result ↔ result = forest.fileName? ref)
            ∧ ∀ root result, forest.Walk root.toList result ↔ result = forest.properties root) := by
  have coherent := Edited.coherent reachable known_stable empty_coherent
  have linked := coherent.linked
  refine ⟨fun child parent link => linked.parent_lt_size link, linked.link, ?_, ?_, ?_⟩
  · intro parent child listed
    exact List.nodup_iff_count_eq_one.mp (linked.unique parent) child listed
  · intro id removed
    rw [kind?_eq] at removed
    obtain ⟨data, content, kind⟩ := Option.map_eq_some_iff.mp removed
    cases data <;> first | exact linked.detached id content | cases kind
  · intro declared
    have layered := Edited.layered declared empty_coherent empty_layered
    have acyclic := coherent.acyclic layered
    refine ⟨coherent.wellFounded_isParent layered, acyclic, acyclic.climb_iff, ?_⟩
    intro root result
    have walked := (coherent.walk_properties layered root).1
    exact ⟨fun walk => walk.deterministic walked, fun same => same ▸ walked⟩

theorem retyped_links_sound
    : Reachable Known retyped
      ∧ Reachable Declarable retyped
      ∧ retyped.parentOf (some 2) = none
      ∧ retyped.Climb (some 3) (retyped.fileName? (some 3)) := by
  have declared := retyped_reachable
  obtain ⟨_, _, _, detached, walks⟩ := reachable_links_sound declared.known
  exact ⟨declared.known, declared, detached 2 (by cbv), ((walks declared).2.2.1 _ _).mpr rfl⟩

end PropertyLint.Forest
