import PropertyLint.Proofs.TypeTable.Interning
import PropertyLint.TypeTable.Supertypes

/-! Instances of supertype templates.
A relation says which type of a table is the instance of a template. Working out an instance makes
it where it is missing; an instance that the table holds is found again without any change, and
what is an instance stays one while the table grows.
-/

namespace PropertyLint.TypeTable

variable {table before after : TypeTable} {arguments ids : List TypeId} {params : List Atom}
  {template : TypeTemplate} {templates : List TypeTemplate} {id : TypeId}

mutual

/-- The type is the template with the arguments put in for the parameters. A parameter without an
argument stands for the type named after it.
-/
inductive Instance (table : TypeTable) (arguments : List TypeId) (params : List Atom)
    : TypeTemplate → TypeId → Prop
  | argument {index id} (given : arguments[index]? = some id)
    : Instance table arguments params (.param index) id
  | raw {index id} (missing : arguments[index]? = none)
    (found : table.get? id = some ⟨params[index]?.getD 0, [], false⟩)
    : Instance table arguments params (.param index) id
  | named {name templates nullable head ids id}
    (inner : Instances table arguments params templates ids)
    (known : table.interner.names[head]? = some name)
    (found : table.get? id = some ⟨head, ids, nullable⟩)
    : Instance table arguments params (.named name templates nullable) id

/-- The types are the instances of the templates, one by one. -/
inductive Instances (table : TypeTable) (arguments : List TypeId) (params : List Atom)
    : List TypeTemplate → List TypeId → Prop
  | nil : Instances table arguments params [] []
  | cons {template rest id ids} (first : Instance table arguments params template id)
    (others : Instances table arguments params rest ids)
    : Instances table arguments params (template :: rest) (id :: ids)

end

/-- The arguments and the names of the parameters are in the table. -/
structure Supplies (table : TypeTable) (arguments : List TypeId) (params : List Atom) : Prop where
  arguments : ∀ argument ∈ arguments, argument < table.size
  params : ∀ param ∈ params, param < table.interner.size

theorem Supplies.grow (supplies : before.Supplies arguments params) (grown : Grown before after)
    : after.Supplies arguments params where
  arguments argument member := grown.lt_size (supplies.arguments argument member)
  params param member := grown.names.lt_size (supplies.params param member)

/-- An instance is in the table. -/
theorem Instance.lt_size (supplies : table.Supplies arguments params)
    (inst : table.Instance arguments params template id)
    : id < table.size := by
  cases inst with
  | argument given => exact supplies.arguments id (List.mem_of_getElem? given)
  | raw _ found => exact lt_size_of_get? found
  | named _ _ found => exact lt_size_of_get? found

/-- Instances are in the table, by induction on the list. -/
theorem Instances.lt_size (supplies : table.Supplies arguments params)
    (inst : table.Instances arguments params templates ids)
    : ∀ id ∈ ids, id < table.size := by
  induction templates generalizing ids with
  | nil =>
      cases inst
      simp
  | cons template rest ih =>
      cases inst with
      | cons first others =>
          intro id member
          rcases List.mem_cons.mp member with rfl | member
          · exact first.lt_size supplies
          · exact ih others id member

mutual

/-- An instance stays one while the table grows, by recursion on the template. -/
theorem Instance.grow {template : TypeTemplate} {id : TypeId}
    (inst : before.Instance arguments params template id) (grown : Grown before after)
    : after.Instance arguments params template id := by
  cases inst with
  | argument given => exact .argument given
  | raw missing found => exact .raw missing (grown.types found)
  | named inner known found =>
      exact .named (inner.grow grown) (grown.names _ _ known) (grown.types found)
termination_by sizeOf template

theorem Instances.grow {templates : List TypeTemplate} {ids : List TypeId}
    (inst : before.Instances arguments params templates ids) (grown : Grown before after)
    : after.Instances arguments params templates ids := by
  cases inst with
  | nil => exact .nil
  | cons first others => exact .cons (first.grow grown) (others.grow grown)
termination_by sizeOf templates

end

-----------------------------------------------------------------------------------------
-- Working out instances
-----------------------------------------------------------------------------------------

mutual

/-- Instantiation gives the instance, by recursion on the template. -/
theorem Sound.instantiate {table : TypeTable} (sound : table.Sound)
    (supplies : table.Supplies arguments params) (template : TypeTemplate)
    : Interns table (table.instantiate arguments params template).2
      ∧ (table.instantiate arguments params template).2.Instance arguments params template
          (table.instantiate arguments params template).1 := by
  cases template with
  | param index =>
      simp only [TypeTable.instantiate]
      split
      · rename_i given
        exact ⟨.refl sound, .argument given⟩
      · rename_i missing
        have fits : table.Fits ⟨params[index]?.getD 0, [], false⟩ := {
          head := by
            cases named : params[index]? with
            | none => exact sound.zero_lt_size
            | some param => exact supplies.params param (List.mem_of_getElem? named)
          arguments := by simp
        }
        obtain ⟨interns, found⟩ := sound.internType fits
        exact ⟨interns, .raw missing found⟩
  | named name templates nullable =>
      obtain ⟨argued, inner⟩ := sound.instantiateAll supplies templates
      obtain ⟨named, known⟩ := argued.sound.internName name
      have supplied := (supplies.grow argued.grown).grow named.grown
      have inner := inner.grow named.grown
      let ids := (table.instantiateAll arguments params templates).1
      let called := (table.instantiateAll arguments params templates).2.internName name
      have fits : called.2.Fits ⟨called.1, ids, nullable⟩ := {
        head := (Array.getElem?_eq_some_iff.mp known).1
        arguments := inner.lt_size supplied
      }
      obtain ⟨interns, found⟩ := named.sound.internType fits
      simp only [TypeTable.instantiate]
      exact ⟨(argued.trans named).trans interns,
        .named (inner.grow interns.grown) (interns.grown.names _ _ known) found⟩
termination_by sizeOf template

/-- Instantiating several templates gives all instances: the later ones keep the earlier ones. -/
theorem Sound.instantiateAll {table : TypeTable} (sound : table.Sound)
    (supplies : table.Supplies arguments params) (templates : List TypeTemplate)
    : Interns table (table.instantiateAll arguments params templates).2
      ∧ (table.instantiateAll arguments params templates).2.Instances arguments params templates
          (table.instantiateAll arguments params templates).1 := by
  cases templates with
  | nil => exact ⟨.refl sound, .nil⟩
  | cons template rest =>
      obtain ⟨interns, first⟩ := sound.instantiate supplies template
      obtain ⟨others, inst⟩ := interns.sound.instantiateAll (supplies.grow interns.grown) rest
      simp only [TypeTable.instantiateAll]
      exact ⟨interns.trans others, .cons (first.grow others.grown) inst⟩
termination_by sizeOf templates

end

mutual

/-- An instance that the table holds is found, and nothing changes. -/
theorem Sound.instantiate_known {table : TypeTable} (sound : table.Sound)
    {template : TypeTemplate} {id : TypeId}
    (inst : table.Instance arguments params template id)
    : table.instantiate arguments params template = (id, table) := by
  cases inst with
  | argument given => simp [TypeTable.instantiate, given]
  | raw missing found => simp [TypeTable.instantiate, missing, sound.internType_known found]
  | named inner known found =>
      simp [TypeTable.instantiate, sound.instantiateAll_known inner, sound.internName_known known,
        sound.internType_known found]
termination_by sizeOf template

theorem Sound.instantiateAll_known {table : TypeTable} (sound : table.Sound)
    {templates : List TypeTemplate} {ids : List TypeId}
    (inst : table.Instances arguments params templates ids)
    : table.instantiateAll arguments params templates = (ids, table) := by
  cases inst with
  | nil => rfl
  | cons first others =>
      simp [TypeTable.instantiateAll, sound.instantiate_known first,
        sound.instantiateAll_known others]
termination_by sizeOf templates

end

-----------------------------------------------------------------------------------------
-- Instances in their nullable form
-----------------------------------------------------------------------------------------

/-- The types are the instances of the templates, each in its nullable form when `lift` holds. -/
inductive LiftedInstances (table : TypeTable) (arguments : List TypeId) (params : List Atom)
    : Bool → List TypeTemplate → List TypeId → Prop
  | nil {lift} : LiftedInstances table arguments params lift [] []
  | plain {template rest id ids} (first : table.Instance arguments params template id)
    (others : LiftedInstances table arguments params false rest ids)
    : LiftedInstances table arguments params false (template :: rest) (id :: ids)
  | lifted {template rest id lifted ids} (first : table.Instance arguments params template id)
    (lifts : table.Lifts id lifted)
    (others : LiftedInstances table arguments params true rest ids)
    : LiftedInstances table arguments params true (template :: rest) (lifted :: ids)

theorem LiftedInstances.grow {lift : Bool}
    (inst : before.LiftedInstances arguments params lift templates ids)
    (grown : Grown before after)
    : after.LiftedInstances arguments params lift templates ids := by
  induction inst with
  | nil => exact .nil
  | plain first _ ih => exact .plain (first.grow grown) ih
  | lifted first lifts _ ih => exact .lifted (first.grow grown) (lifts.grow grown) ih

/-- Instantiating templates in their nullable form gives all instances, by induction on them. -/
theorem Sound.instantiateLifted (sound : table.Sound) (supplies : table.Supplies arguments params)
    (lift : Bool) (templates : List TypeTemplate)
    : Interns table (table.instantiateLifted arguments params lift templates).2
      ∧ (table.instantiateLifted arguments params lift templates).2.LiftedInstances arguments
          params lift templates (table.instantiateLifted arguments params lift templates).1 := by
  induction templates generalizing table with
  | nil => exact ⟨.refl sound, .nil⟩
  | cons template rest ih =>
      obtain ⟨interns, first⟩ := sound.instantiate supplies template
      have supplied := supplies.grow interns.grown
      simp only [TypeTable.instantiateLifted]
      cases lift with
      | false =>
          obtain ⟨others, inst⟩ := ih interns.sound supplied
          exact ⟨interns.trans others, .plain (first.grow others.grown) inst⟩
      | true =>
          obtain ⟨nullable, lifts⟩ := interns.sound.nullable (first.lt_size supplied)
          obtain ⟨others, inst⟩ := ih nullable.sound (supplied.grow nullable.grown)
          exact ⟨(interns.trans nullable).trans others,
            .lifted (first.grow (nullable.grown.trans others.grown)) (lifts.grow others.grown)
              inst⟩

/-- Instances that the table holds are found, and nothing changes. -/
theorem Sound.instantiateLifted_known (sound : table.Sound) {lift : Bool}
    (inst : table.LiftedInstances arguments params lift templates ids)
    : table.instantiateLifted arguments params lift templates = (ids, table) := by
  induction inst with
  | nil => rfl
  | plain first _ ih => simp [TypeTable.instantiateLifted, sound.instantiate_known first, ih]
  | lifted first lifts _ ih =>
      simp [TypeTable.instantiateLifted, sound.instantiate_known first,
        sound.nullable_known lifts, ih]

-----------------------------------------------------------------------------------------
-- Direct supertypes
-----------------------------------------------------------------------------------------

/-- The types are the direct supertypes of a type of the table, in the order of its class's
declaration. A class that is not declared has none.
-/
inductive HasSupertypes (table : TypeTable) (id : TypeId) : List TypeId → Prop
  | undeclared {data} (found : table.get? id = some data)
    (absent : table.classes[data.head]? = none)
    : HasSupertypes table id []
  | declared {data declaration ids} (found : table.get? id = some data)
    (known : table.classes[data.head]? = some declaration)
    (inst : table.LiftedInstances data.arguments declaration.params data.nullable
      declaration.supertypes ids)
    : HasSupertypes table id ids

/-- Supertypes stay while no class is declared: later types change nothing about them. -/
theorem HasSupertypes.grow (has : before.HasSupertypes id ids) (interns : Interns before after)
    : after.HasSupertypes id ids := by
  cases has with
  | undeclared found absent =>
      exact .undeclared (interns.grown.types found) (interns.classes ▸ absent)
  | declared found known inst =>
      exact .declared (interns.grown.types found) (interns.classes ▸ known)
        (inst.grow interns.grown)

/-- The query gives the supertypes of every type of the table. -/
theorem Sound.supertypes (sound : table.Sound) (known : id < table.size)
    : Interns table (table.supertypes id).2
      ∧ (table.supertypes id).2.HasSupertypes id (table.supertypes id).1 := by
  obtain ⟨data, found⟩ := get?_isSome_iff.mpr known
  simp only [TypeTable.supertypes, found]
  cases declared : table.classes[data.head]? with
  | none => exact ⟨.refl sound, .undeclared found declared⟩
  | some declaration =>
      have supplies : table.Supplies data.arguments declaration.params :=
        ⟨(sound.fits found).arguments, sound.params declared⟩
      obtain ⟨interns, inst⟩ :=
        sound.instantiateLifted supplies data.nullable declaration.supertypes
      exact ⟨interns, .declared (interns.grown.types found) (interns.classes ▸ declared) inst⟩

/-- A type that is not in the table has no supertypes, and nothing changes. -/
theorem supertypes_missing (missing : ¬ id < table.size) : table.supertypes id = ([], table) := by
  have absent : table.get? id = none := by simpa [TypeTable.get?, size] using missing
  simp [supertypes, absent]

/-- Supertypes that the table holds are found, and nothing changes. -/
theorem Sound.supertypes_known (sound : table.Sound) (has : table.HasSupertypes id ids)
    : table.supertypes id = (ids, table) := by
  cases has with
  | undeclared found absent => simp [TypeTable.supertypes, found, absent]
  | declared found known inst =>
      simp [TypeTable.supertypes, found, known, sound.instantiateLifted_known inst]

end PropertyLint.TypeTable
