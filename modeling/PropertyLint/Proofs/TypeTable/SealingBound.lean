import PropertyLint.Proofs.TypeTable.HierarchyClosure

/-! How many types a sealed table holds.
Sealing stops after a number of types whose supertypes it has worked out, and each of these may
bring in new types. So the limit holds for the types that have been gone through, and for all of
them only where the hierarchy closes in time.
-/

namespace PropertyLint

mutual

/-- The number of types that an instance of the template may bring in. -/
def TypeTemplate.weight : TypeTemplate → Nat
  | .param _ => 1
  | .named _ arguments _ => TypeTemplate.weights arguments + 1

def TypeTemplate.weights : List TypeTemplate → Nat
  | [] => 0
  | template :: rest => template.weight + TypeTemplate.weights rest

end

/-- The number of types that the supertypes of a type of the class may bring in: a nullable type
takes one more for each.
-/
def ClassDeclaration.weight (declaration : ClassDeclaration) : Nat :=
  TypeTemplate.weights declaration.supertypes + declaration.supertypes.length

namespace TypeTable

variable {table before after : TypeTable} {known : Array (List TypeId)} {width : Nat}

-----------------------------------------------------------------------------------------
-- What one turn brings in
-----------------------------------------------------------------------------------------

theorem size_internType (table : TypeTable) (data : TypeData)
    : (table.internType data).2.size ≤ table.size + 1 := by
  unfold internType
  split
  · exact Nat.le_succ _
  · simp [size]

theorem size_nullable (table : TypeTable) (id : TypeId)
    : (table.nullable id).2.size ≤ table.size + 1 := by
  unfold nullable
  split
  · exact Nat.le_succ _
  · split
    · exact Nat.le_succ _
    · exact size_internType ..

mutual

/-- An instance brings in no more types than its template weighs, by recursion on the template. -/
theorem size_instantiate (table : TypeTable) (arguments : List TypeId) (params : List Atom)
    (template : TypeTemplate)
    : (table.instantiate arguments params template).2.size ≤ table.size + template.weight := by
  cases template with
  | param index =>
      simp only [instantiate]
      split
      · exact Nat.le_add_right _ _
      · exact size_internType ..
  | named name templates nullable =>
      have inner := size_instantiateAll table arguments params templates
      simp only [instantiate, TypeTemplate.weight]
      exact (size_internType ..).trans (Nat.succ_le_succ inner)
termination_by sizeOf template

theorem size_instantiateAll (table : TypeTable) (arguments : List TypeId) (params : List Atom)
    (templates : List TypeTemplate)
    : (table.instantiateAll arguments params templates).2.size
      ≤ table.size + TypeTemplate.weights templates := by
  cases templates with
  | nil => exact Nat.le_refl _
  | cons template rest =>
      have first := size_instantiate table arguments params template
      have others := size_instantiateAll (table.instantiate arguments params template).2 arguments
        params rest
      simp only [instantiateAll, TypeTemplate.weights]
      omega
termination_by sizeOf templates

end

/-- Instances in their nullable form take one more type each, by induction on the templates. -/
theorem size_instantiateLifted (table : TypeTable) (arguments : List TypeId) (params : List Atom)
    (lift : Bool) (templates : List TypeTemplate)
    : (table.instantiateLifted arguments params lift templates).2.size
      ≤ table.size + (TypeTemplate.weights templates + templates.length) := by
  induction templates generalizing table with
  | nil => exact Nat.le_refl _
  | cons template rest ih =>
      have first := size_instantiate table arguments params template
      simp only [instantiateLifted, TypeTemplate.weights, List.length_cons]
      cases lift with
      | false =>
          have others := ih (table.instantiate arguments params template).2
          simp only [Bool.false_eq_true, if_false]
          omega
      | true =>
          have lifted := size_nullable (table.instantiate arguments params template).2
            (table.instantiate arguments params template).1
          have others := ih ((table.instantiate arguments params template).2.nullable
            (table.instantiate arguments params template).1).2
          simp only [if_true]
          omega

/-- Every class of the table weighs at most so much. -/
def Width (table : TypeTable) (width : Nat) : Prop :=
  ∀ (atom : Atom) declaration,
    table.classes[atom]? = some declaration → declaration.weight ≤ width

/-- The supertypes of one type bring in no more types than the heaviest class weighs. -/
theorem Width.size_supertypes (bounded : table.Width width) (id : TypeId)
    : (table.supertypes id).2.size ≤ table.size + width := by
  unfold supertypes
  split
  · exact Nat.le_add_right _ _
  · split
    · exact Nat.le_add_right _ _
    · rename_i declaration found
      exact (size_instantiateLifted ..).trans
        (Nat.add_le_add_left (bounded _ declaration found) _)

-----------------------------------------------------------------------------------------
-- What a run brings in
-----------------------------------------------------------------------------------------

/-- A run brings in as many types as its turns do, by induction on them: no turn declares a class.
-/
theorem Settled.size_sealWithin (settled : table.Settled known) (bounded : table.Width width)
    (budget : Nat)
    : (table.sealWithin known budget).table.size ≤ table.size + budget * width := by
  induction budget generalizing table known with
  | zero => exact Nat.le_add_right _ _
  | succ budget ih =>
      unfold sealWithin
      split
      · rename_i more
        obtain ⟨interns, next⟩ := settled.step more
        have one := bounded.size_supertypes known.size
        have still : (table.supertypes known.size).2.Width width := by
          unfold Width
          rwa [interns.classes]
        have others := ih next still
        rw [Nat.succ_mul]
        dsimp only
        omega
      · exact Nat.le_add_right _ _

-----------------------------------------------------------------------------------------
-- Sealed tables
-----------------------------------------------------------------------------------------

/-- When a sealed table holds too many types. After every history sealing brings in only what the
hierarchy calls for. The limit is kept exactly when every type of the sealed table has had its
supertypes worked out, and exactly when the hierarchy calls for no more types; then the sealed
table holds all of these. In general each turn adds up to what the heaviest class brings in.
-/
theorem sealing_keeps_limit_iff {headers : List ClassHeader} (built : Built headers table)
    : (∀ id tree, table.seal.table.Denotes id tree → Closure headers table tree)
      ∧ (table.seal.table.size ≤ maxSealedTypes
        ↔ table.seal.supertypes.size = table.seal.table.size)
      ∧ (table.seal.table.size ≤ maxSealedTypes
        ↔ {tree | Closure headers table tree}.encard ≤ maxSealedTypes)
      ∧ (table.seal.table.size ≤ maxSealedTypes
        → ∀ tree, Closure headers table tree → ∃ id, table.seal.table.Denotes id tree)
      ∧ (∀ width,
          table.Width width
          → table.seal.table.size ≤ table.size + maxSealedTypes * width) := by
  have sound := (reachable_iff_built.mpr ⟨headers, built⟩).sound
  have start : table.Settled #[] := ⟨sound, Nat.zero_le _, by simp⟩
  obtain ⟨interns, settled, processed⟩ := sound.sealed
  have records := built.records.grow interns.grown interns.classes
  have within : Within headers table table.seal.table :=
    start.sealWithin_within built.records (fun _ _ => .held) maxSealedTypes
  have denoted (small : table.seal.table.size ≤ maxSealedTypes) (tree : TypeTree)
      (closure : Closure headers table tree)
      : ∃ id, table.seal.table.Denotes id tree :=
    closure.denoted sound interns records (settled.closed (by omega))
  have count := interns.sound.encard_denoted
  refine ⟨within, by omega, ⟨fun small => ?_, fun small => ?_⟩, denoted,
    fun width bounded => start.size_sealWithin bounded maxSealedTypes⟩
  · calc
      {tree | Closure headers table tree}.encard
        ≤ {tree | ∃ id, table.seal.table.Denotes id tree}.encard :=
        Set.encard_le_encard (denoted small)
      _ = table.seal.table.size := count
      _ ≤ maxSealedTypes := mod_cast small
  · have all : {tree | ∃ id, table.seal.table.Denotes id tree}
        ⊆ {tree | Closure headers table tree} := by
      rintro tree ⟨id, denotes⟩
      exact within id tree denotes
    have fits := (Set.encard_le_encard all).trans small
    rw [count] at fits
    exact_mod_cast fits

/-- The declaration of the sample's class. -/
def chainHeader : ClassHeader where
  name := "Chain"
  params := ["T"]
  supertypes := [.generic "Chain" [.generic "List" [.param 0]]]

theorem chain_built : Built [rootHeader, chainHeader] chain := by
  have declared := Built.empty.step
    (.declareClass chainHeader.name chainHeader.params chainHeader.supertypes)
    (by simp [TableCall.Allowed, TableCall.arguments])
  have first := declared.step (.classType "Int" [])
    (by simp [TableCall.Allowed, TableCall.arguments])
  refine first.step (.classType "Chain" [0]) ?_
  intro argument member
  obtain rfl := List.mem_singleton.mp member
  cbv

theorem chain_classes
    : chain.classes
      = ((∅ : Std.HashMap Atom ClassDeclaration).insert 1 ⟨[], []⟩).insert 2
          ⟨[3], [.generic "Chain" [.generic "List" [.param 0]]]⟩ := by
  cbv

/-- What the sample table knows of its class. -/
theorem chain_class
    : chain.classes[2]? = some ⟨[3], [.generic "Chain" [.generic "List" [.param 0]]]⟩ := by
  rw [chain_classes, Std.HashMap.getElem?_insert_self]

/-- A chain brings in a chain and a list; the bound also counts the element and a nullable form. -/
theorem chain_width : chain.Width 4 := by
  intro atom declaration found
  rw [chain_classes, Std.HashMap.getElem?_insert, Std.HashMap.getElem?_insert] at found
  split at found
  · cases found
    decide
  · split at found
    · cases found
      decide
    · simp at found

theorem chain_name : chain.interner.names[2]? = some "Chain" := by
  cbv

/-- What an instance of an applied class is made of. -/
theorem Instance.parts {arguments : List TypeId} {params : List Atom} {name : String}
    {templates : List TypeTemplate} {nullable : Bool} {id : TypeId}
    (inst : table.Instance arguments params (.named name templates nullable) id)
    : ∃ head ids,
        table.Instances arguments params templates ids
        ∧ table.interner.names[head]? = some name
        ∧ table.get? id = some ⟨head, ids, nullable⟩ := by
  cases inst with
  | named inner known found => exact ⟨_, _, inner, known, found⟩

theorem Instances.single {arguments ids : List TypeId} {params : List Atom}
    {template : TypeTemplate} (inst : table.Instances arguments params [template] ids)
    : ∃ id, ids = [id] ∧ table.Instance arguments params template id := by
  cases inst with
  | cons first rest =>
      cases rest
      exact ⟨_, rfl, first⟩

/-- In a table that goes on from the sample, a chain with supertypes leads to a chain of a later
type: the list of its element.
-/
theorem chain_next (interns : Interns chain table) {id element : TypeId} {ids : List TypeId}
    (found : table.get? id = some ⟨2, [element], false⟩) (has : table.HasSupertypes id ids)
    : ∃ next later, element < later ∧ table.get? next = some ⟨2, [later], false⟩ := by
  have sound := interns.sound
  have declared : table.classes[2]? = _ := interns.classes ▸ chain_class
  have named := interns.grown.names 2 "Chain" chain_name
  cases has with
  | undeclared again absent =>
      obtain rfl := Option.some.inj (found.symm.trans again)
      rw [declared] at absent
      cases absent
  | declared again known inst =>
      obtain rfl := Option.some.inj (found.symm.trans again)
      obtain rfl := Option.some.inj (declared.symm.trans known)
      cases inst with
      | @plain _ _ next _ first _ =>
          obtain ⟨head, _, inner, chained, outer⟩ := first.parts
          obtain ⟨later, rfl, listed⟩ := inner.single
          obtain ⟨_, _, inner, _, list⟩ := listed.parts
          obtain ⟨item, rfl, argument⟩ := inner.single
          have same : item = element := by
            cases argument with
            | argument given => exact (Option.some.inj given).symm
            | raw missing _ => cases missing
          have head : head = 2 :=
            congrArg Prod.fst ((sound.internName_known chained).symm.trans
              (sound.internName_known named))
          exact ⟨next, later, same ▸ sound.descending list item (List.mem_singleton_self item),
            head ▸ outer⟩

/-- So its chains would be of ever later types, by induction on how late, if all types of the table
had their supertypes there.
-/
theorem chain_unbounded (interns : Interns chain table)
    (closed : table.Closed) (bound : Nat)
    : ∃ id element, bound ≤ element ∧ table.get? id = some ⟨2, [element], false⟩ := by
  induction bound with
  | zero => exact ⟨1, 0, Nat.le_refl 0, interns.grown.types chain_get?⟩
  | succ bound ih =>
      obtain ⟨id, element, late, found⟩ := ih
      obtain ⟨ids, has⟩ := closed id (lt_size_of_get? found)
      obtain ⟨next, later, less, again⟩ := chain_next interns found has
      exact ⟨next, later, Nat.lt_of_le_of_lt late less, again⟩

theorem chain_exceeds : maxSealedTypes < chain.seal.table.size := by
  obtain ⟨interns, settled, processed⟩ := chain_reachable.sound.sealed
  by_contra within
  have closed := settled.closed (by omega)
  obtain ⟨id, element, late, found⟩ := chain_unbounded interns closed chain.seal.table.size
  have inside := interns.sound.descending found element (List.mem_singleton_self element)
  exact Nat.lt_irrefl _ ((Nat.lt_of_le_of_lt late inside).trans (lt_size_of_get? found))

/-- The sample calls for too many types: sealing leaves some without their supertypes, and stays
within the general bound.
-/
theorem chain_sealing_leaves_types
    : Built [rootHeader, chainHeader] chain
      ∧ chain.seal.supertypes.size ≠ chain.seal.table.size
      ∧ maxSealedTypes < {tree | Closure [rootHeader, chainHeader] chain tree}.encard
      ∧ chain.seal.table.size ≤ chain.size + maxSealedTypes * 4 := by
  obtain ⟨_, settles, closes, _, bound⟩ := sealing_keeps_limit_iff chain_built
  have exceeds := Nat.not_le.mpr chain_exceeds
  exact ⟨chain_built, exceeds ∘ settles.mpr, not_le.mp (exceeds ∘ closes.mpr),
    bound 4 chain_width⟩

/-- The sample holds two types before it is sealed and more than the limit afterwards, so that not
all of them have had their supertypes worked out.
-/
theorem chain_exceeds_limit
    : Reachable chain
      ∧ chain.size ≤ maxSealedTypes
      ∧ maxSealedTypes < chain.seal.table.size
      ∧ chain.seal.supertypes.size < chain.seal.table.size := by
  have size : chain.size = 2 := by cbv
  obtain ⟨_, _, processed⟩ := chain_reachable.sound.sealed
  have exceeds := chain_exceeds
  exact ⟨chain_reachable, size ▸ by simp [maxSealedTypes], exceeds, by omega⟩

end TypeTable

end PropertyLint
