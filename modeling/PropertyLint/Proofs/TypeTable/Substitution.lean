import PropertyLint.Proofs.TypeTable.ClassHistory
import PropertyLint.Proofs.TypeTable.TypeTrees

/-! Direct supertypes are templates with the type's arguments substituted.
Substitution is described on trees, without a table. Working out supertypes interns while it
descends into a template; what it returns denotes the substituted tree all the same, as no earlier
number changes its meaning.
-/

namespace PropertyLint

/-- The type of the name alone, without arguments and not nullable. -/
def TypeTree.simple (name : String) : TypeTree :=
  .applied name [] false

/-- The tree, nullable if it was or if asked to be. -/
def TypeTree.lift (lift : Bool) : TypeTree → TypeTree
  | .applied name arguments nullable => .applied name arguments (nullable || lift)

namespace TypeTemplate

mutual

/-- Replaces every parameter by the argument at its position. A parameter without an argument is
replaced by the type of its own name, and one without a name by that of the empty name.
-/
def substitute (arguments : List TypeTree) (params : List String) : TypeTemplate → TypeTree
  | .param index => arguments[index]?.getD (.simple (params[index]?.getD ""))
  | .named name templates nullable =>
    .applied name (substituteAll arguments params templates) nullable

def substituteAll (arguments : List TypeTree) (params : List String)
    : List TypeTemplate → List TypeTree
  | [] => []
  | template :: rest => template.substitute arguments params :: substituteAll arguments params rest

end

end TypeTemplate

namespace TypeTable

variable {table : TypeTable} {arguments ids : List TypeId} {params : List Atom} {id : TypeId}
  {trees : List TypeTree} {names : List String} {tree : TypeTree}

-----------------------------------------------------------------------------------------
-- Arguments and parameters by position
-----------------------------------------------------------------------------------------

/-- The type at a position is the tree at that position, by induction on the list. -/
theorem DenotesAll.getElem? (given : table.DenotesAll ids trees) {index : Nat}
    (found : ids[index]? = some id)
    : ∃ tree, trees[index]? = some tree ∧ table.Denotes id tree := by
  induction ids generalizing trees index with
  | nil => cases found
  | cons first rest ih =>
      cases given with
      | @cons _ _ tree trees denotes others =>
          cases index with
          | zero =>
              obtain rfl : first = id := by simpa using found
              exact ⟨tree, rfl, denotes⟩
          | succ index => exact ih others (by simpa using found)

theorem DenotesAll.length_eq (given : table.DenotesAll ids trees) : ids.length = trees.length := by
  induction ids generalizing trees with
  | nil =>
      cases given
      rfl
  | cons first rest ih =>
      cases given with
      | cons _ others => simp [ih others]

/-- A parameter resolves to its name, and a missing one to the empty name. -/
theorem Sound.resolve_param (sound : table.Sound) (named : table.interner.Names params names)
    (index : Nat)
    : table.interner.resolve (params[index]?.getD 0) = names[index]?.getD "" := by
  have blank : table.interner.resolve 0 = "" := by
    simp [Interner.resolve, Array.getD_eq_getD_getElem?, sound.emptyName]
  rw [← named.resolve, List.getElem?_map]
  cases params[index]? with
  | none => exact blank
  | some param => rfl

-----------------------------------------------------------------------------------------
-- Instances denote substituted templates
-----------------------------------------------------------------------------------------

/-- What the arguments and the parameters of an instance stand for. -/
structure Reads (table : TypeTable) (arguments : List TypeId) (params : List Atom)
    (trees : List TypeTree) (names : List String) : Prop where
  sound : table.Sound
  given : table.DenotesAll arguments trees
  named : table.interner.Names params names

mutual

/-- An instance denotes the template with the arguments' trees substituted, by recursion on the
template.
-/
theorem Instance.denotes (reads : table.Reads arguments params trees names)
    {template : TypeTemplate} {id : TypeId} (inst : table.Instance arguments params template id)
    : table.Denotes id (template.substitute trees names) := by
  cases inst with
  | argument found =>
      obtain ⟨tree, present, denotes⟩ := reads.given.getElem? found
      simpa [TypeTemplate.substitute, present] using denotes
  | @raw index _ missing found =>
      have absent : trees[index]? = none := by
        rw [List.getElem?_eq_none_iff] at missing ⊢
        exact reads.given.length_eq ▸ missing
      rw [TypeTemplate.substitute, absent, ← reads.sound.resolve_param reads.named]
      exact .applied found .nil
  | @named name templates nullable head ids _ inner known found =>
      have resolved : table.interner.resolve head = name := by
        simp [Interner.resolve, Array.getD_eq_getD_getElem?, known]
      rw [TypeTemplate.substitute, ← resolved]
      exact .applied found (inner.denotes reads)
termination_by sizeOf template

theorem Instances.denotes (reads : table.Reads arguments params trees names)
    {templates : List TypeTemplate} {ids : List TypeId}
    (inst : table.Instances arguments params templates ids)
    : table.DenotesAll ids (TypeTemplate.substituteAll trees names templates) := by
  cases inst with
  | nil => exact .nil
  | cons first others => exact .cons (first.denotes reads) (others.denotes reads)
termination_by sizeOf templates

end

theorem TypeTree.lift_false (tree : TypeTree) : tree.lift false = tree := by
  cases tree
  simp [TypeTree.lift]

/-- The nullable form of a type denotes the same tree, made nullable. -/
theorem Lifts.denotes {lifted : TypeId} (lifts : table.Lifts id lifted)
    (denotes : table.Denotes id tree)
    : table.Denotes lifted (tree.lift true) := by
  rcases lifts with ⟨data, found, liftedFound⟩
  cases denotes with
  | applied otherFound inner =>
      obtain rfl := Option.some.inj (found.symm.trans otherFound)
      rw [TypeTree.lift, Bool.or_true]
      exact .applied liftedFound inner

/-- Instances in their nullable form denote the lifted trees, by induction on the templates. -/
theorem LiftedInstances.denotes (reads : table.Reads arguments params trees names) {lift : Bool}
    {templates : List TypeTemplate}
    (inst : table.LiftedInstances arguments params lift templates ids)
    : table.DenotesAll ids
        (templates.map fun template => (template.substitute trees names).lift lift) := by
  induction inst with
  | nil => exact .nil
  | plain first _ ih =>
      have denotes := first.denotes reads
      rw [← TypeTree.lift_false (TypeTemplate.substitute _ _ _)] at denotes
      exact .cons denotes ih
  | lifted first lifts _ ih => exact .cons (lifts.denotes (first.denotes reads)) ih

-----------------------------------------------------------------------------------------
-- Direct supertypes
-----------------------------------------------------------------------------------------

/-- The supertypes of a type of a declared class denote the substituted templates. -/
theorem HasSupertypes.denotes {data : TypeData} {declaration : ClassDeclaration}
    (has : table.HasSupertypes id ids) (found : table.get? id = some data)
    (declared : table.classes[data.head]? = some declaration)
    (reads : table.Reads data.arguments declaration.params trees names)
    : table.DenotesAll ids
        (declaration.supertypes.map fun template =>
          (template.substitute trees names).lift data.nullable) := by
  cases has with
  | undeclared again absent =>
      obtain rfl := Option.some.inj (found.symm.trans again)
      cases absent.symm.trans declared
  | declared again known inst =>
      obtain rfl := Option.some.inj (found.symm.trans again)
      obtain rfl := Option.some.inj (declared.symm.trans known)
      exact inst.denotes reads

/-- The stored layer of a type has the name that its tree has. -/
theorem Sound.head_named (sound : table.Sound) {data : TypeData}
    (found : table.get? id = some data)
    : table.interner.names[data.head]? = some (table.interner.resolve data.head) := by
  have known : data.head < table.interner.names.size := sound.heads found
  simp [Interner.resolve, Array.getD_eq_getD_getElem?, known]

/-- After every history, the direct supertypes of a type are the templates of the last declaration
of its class, in their order, with the type's arguments substituted for the parameters. The
supertypes of a nullable type are nullable. A type whose class has not been declared has none, nor
has a number without a type. Every type has a tree, and all types keep theirs.
-/
theorem supertypes_substitute_arguments {headers : List ClassHeader} (built : Built headers table)
    : (∀ id < table.size, ∃ tree, table.Denotes id tree)
      ∧ (∀ id name trees nullable header,
          table.Denotes id (.applied name trees nullable)
          → lastHeader? headers name = some header
          → (table.supertypes id).2.DenotesAll (table.supertypes id).1
              (header.templates.map fun template =>
                (template.substitute trees header.params).lift nullable))
      ∧ (∀ id name trees nullable,
          table.Denotes id (.applied name trees nullable)
          → lastHeader? headers name = none
          → (table.supertypes id).1 = [])
      ∧ (∀ id, table.size ≤ id → (table.supertypes id).1 = [])
      ∧ ∀ id other tree, table.Denotes other tree → (table.supertypes id).2.Denotes other tree := by
  have sound := (reachable_iff_built.mpr ⟨headers, built⟩).sound
  have records := built.records
  refine ⟨fun id known => sound.exists_denotes known, ?_, ?_, ?_, ?_⟩
  · intro id name trees nullable header denotes last
    cases denotes with
    | applied found inner =>
        obtain ⟨interns, has⟩ := sound.supertypes (lt_size_of_get? found)
        have later := interns.grown.types found
        have named := interns.grown.names _ _ (sound.head_named found)
        obtain ⟨params, declared, paramNames⟩ :=
          (records.grow interns.grown interns.classes).class_of_declared interns.sound named last
        exact has.denotes later declared
          ⟨interns.sound, inner.grow sound interns.grown, paramNames⟩
  · intro id name trees nullable denotes absent
    cases denotes with
    | applied found inner =>
        have undeclared := records.class_of_undeclared (sound.head_named found) absent
        simp [TypeTable.supertypes, found, undeclared]
  · intro id outside
    rw [supertypes_missing (Nat.not_lt.mpr outside)]
  · intro id other tree denotes
    by_cases known : id < table.size
    · exact denotes.grow sound (sound.supertypes known).1.grown
    · rw [supertypes_missing known]
      exact denotes

/-- The second declaration of a sample class: the first supertype is a parameter, and the second one
holds a parameter that the class does not have.
-/
def pairHeader : ClassHeader where
  name := "Pair"
  params := ["A", "B"]
  supertypes := [.param 1, .generic "Map" [.param 0, .named "Box" [.param 2] true]]

/-- A table in which that class is declared twice, and applied to one argument only. -/
def pairs : TypeTable :=
  [.declareClass "Pair" [] [],
    .declareClass pairHeader.name pairHeader.params pairHeader.supertypes,
    .classType "Int" [],
    .classType "Pair" [0],
    .nullable 1].foldl TableCall.apply .empty

theorem pairs_built : Built [rootHeader, { name := "Pair" }, pairHeader] pairs := by
  have declared := (Built.empty.step (.declareClass "Pair" [] [])
    (by simp [TableCall.Allowed, TableCall.arguments])).step
    (.declareClass pairHeader.name pairHeader.params pairHeader.supertypes)
    (by simp [TableCall.Allowed, TableCall.arguments])
  have number := declared.step (.classType "Int" [])
    (by simp [TableCall.Allowed, TableCall.arguments])
  refine (number.step (.classType "Pair" [0]) ?_).step (.nullable 1)
    (by simp [TableCall.Allowed, TableCall.arguments])
  intro argument member
  obtain rfl := List.mem_singleton.mp member
  cbv

/-- The supertypes of a nullable pair of one number: its second parameter stays as a type of its own
name, and the third one has no name.
-/
theorem pairs_supertypes
    : Built [rootHeader, { name := "Pair" }, pairHeader] pairs
      ∧ pairs.Denotes 2 (.applied "Pair" [.simple "Int"] true)
      ∧ (pairs.supertypes 2).2.DenotesAll (pairs.supertypes 2).1
          [.applied "B" [] true,
            .applied "Map" [.simple "Int", .applied "Box" [.simple ""] true] true]
      ∧ (pairs.supertypes 0).1 = []
      ∧ (pairs.supertypes 9).1 = [] := by
  obtain ⟨_, substituted, undeclared, missing, _⟩ := supertypes_substitute_arguments pairs_built
  have numberName : pairs.interner.resolve 5 = "Int" := by cbv
  have pairName : pairs.interner.resolve 2 = "Pair" := by cbv
  have numberFound : pairs.get? 0 = some ⟨5, [], false⟩ := by cbv
  have pairFound : pairs.get? 2 = some ⟨2, [0], true⟩ := by cbv
  have number : pairs.Denotes 0 (.simple "Int") := by
    rw [TypeTree.simple, ← numberName]
    exact .applied numberFound .nil
  have pair : pairs.Denotes 2 (.applied "Pair" [.simple "Int"] true) := by
    rw [← pairName]
    exact .applied pairFound (.cons number .nil)
  refine ⟨pairs_built, pair, ?_, ?_, missing 9 (by cbv)⟩
  · exact substituted 2 "Pair" _ true pairHeader pair rfl
  · exact undeclared 0 "Int" [] false number rfl

end TypeTable

end PropertyLint
