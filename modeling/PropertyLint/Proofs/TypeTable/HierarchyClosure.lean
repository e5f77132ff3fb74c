import Mathlib.Data.Set.Card
import PropertyLint.Proofs.TypeTable.Substitution

/-! The types that a class hierarchy calls for.
Working out the supertypes of a type brings in the types that their instances are made of, and these
have supertypes in turn. All that can come about is described on trees, without numbers. A run of
sealing brings in no other types, and all of them when it comes to the end of its table.
-/

namespace PropertyLint

namespace TypeTemplate

mutual

/-- The trees that an instance of the template is made of, its own as the last one. -/
def parts (arguments : List TypeTree) (params : List String) : TypeTemplate → List TypeTree
  | .param index => [substitute arguments params (.param index)]
  | .named name templates nullable =>
    partsAll arguments params templates
      ++ [substitute arguments params (.named name templates nullable)]

def partsAll (arguments : List TypeTree) (params : List String)
    : List TypeTemplate → List TypeTree
  | [] => []
  | template :: rest => template.parts arguments params ++ partsAll arguments params rest

end

end TypeTemplate

namespace TypeTable

/-- The types of the table, what the supertypes of such types are made of, and so on. -/
inductive Closure (headers : List ClassHeader) (table : TypeTable) : TypeTree → Prop
  | held {id tree} (denotes : table.Denotes id tree) : Closure headers table tree
  | part {name trees nullable header template tree}
    (owner : Closure headers table (.applied name trees nullable))
    (last : lastHeader? headers name = some header) (declared : template ∈ header.templates)
    (member : tree ∈ template.parts trees header.params)
    : Closure headers table tree
  | supertype {name trees nullable header template}
    (owner : Closure headers table (.applied name trees nullable))
    (last : lastHeader? headers name = some header) (declared : template ∈ header.templates)
    : Closure headers table ((template.substitute trees header.params).lift nullable)

variable {headers : List ClassHeader} {table before after : TypeTable} {id : TypeId}
  {arguments ids : List TypeId} {params : List Atom} {trees : List TypeTree} {names : List String}
  {tree : TypeTree} {template : TypeTemplate} {templates : List TypeTemplate}

-----------------------------------------------------------------------------------------
-- What working out instances adds
-----------------------------------------------------------------------------------------

/-- A type that was there before has the tree that it had. -/
theorem Grown.denotes_old (grown : Grown before after) (sound : before.Sound)
    (known : id < before.size) (denotes : after.Denotes id tree)
    : before.Denotes id tree := by
  obtain ⟨old, first⟩ := sound.exists_denotes known
  exact denotes.unique (first.grow sound grown) ▸ first

theorem internType_grown (data : TypeData) : Grown table (table.internType data).2 := by
  unfold internType
  split
  · exact .refl table
  · refine ⟨.refl _, fun {id other} found => ?_⟩
    have old := lt_size_of_get? found
    simp only [get?, size] at found old ⊢
    rwa [Array.getElem?_push_lt old, ← Array.getElem?_eq_getElem old]

/-- The types that interning gives are the old ones and its result. -/
theorem internType_old {data : TypeData} (known : id < (table.internType data).2.size)
    : id < table.size ∨ id = (table.internType data).1 := by
  unfold internType at known ⊢
  split at known
  · exact Or.inl known
  · simp only [size, Array.size_push] at known ⊢
    exact Nat.lt_succ_iff_lt_or_eq.mp known

theorem nullable_old {other : TypeId} (known : id < (table.nullable other).2.size)
    : id < table.size ∨ id = (table.nullable other).1 := by
  unfold nullable at known ⊢
  split at known
  · exact Or.inl known
  · split at known
    · exact Or.inl known
    · rename_i plain
      rw [if_neg plain]
      exact internType_old known

theorem Denotes.lt_size (denotes : table.Denotes id tree) : id < table.size := by
  cases denotes with
  | applied found _ => exact lt_size_of_get? found

theorem Reads.grow (reads : before.Reads arguments params trees names)
    (interns : Interns before after)
    : after.Reads arguments params trees names where
  sound := interns.sound
  given := reads.given.grow reads.sound interns.grown
  named := reads.named.extend interns.grown.names

/-- The types of the second table that the first one does not have are among the trees. -/
def Adds (before after : TypeTable) (new : List TypeTree) : Prop :=
  ∀ id tree, after.Denotes id tree → before.Denotes id tree ∨ tree ∈ new

theorem Adds.trans {middle : TypeTable} {first second : List TypeTree}
    (earlier : Adds before middle first) (later : Adds middle after second)
    : Adds before after (first ++ second) := by
  intro id tree denotes
  rcases later id tree denotes with old | new
  · exact (earlier id tree old).imp_right (List.mem_append_left second)
  · exact Or.inr (List.mem_append_right first new)

/-- A step that gives at most one more type adds the tree of that type. -/
theorem Adds.single {result : TypeId} (grown : Grown before after) (sound : before.Sound)
    (old : ∀ id < after.size, id < before.size ∨ id = result) (denotes : after.Denotes result tree)
    : Adds before after [tree] := by
  intro id other given
  rcases old id given.lt_size with known | rfl
  · exact Or.inl (grown.denotes_old sound known given)
  · exact Or.inr (List.mem_singleton.mpr (given.unique denotes))

mutual

/-- An instance adds what it is made of, by recursion on the template. -/
theorem Reads.instantiate_adds {table : TypeTable}
    (reads : table.Reads arguments params trees names) (supplies : table.Supplies arguments params)
    (template : TypeTemplate)
    : Adds table (table.instantiate arguments params template).2 (template.parts trees names) := by
  obtain ⟨interns, inst⟩ := reads.sound.instantiate supplies template
  have result := inst.denotes (reads.grow interns)
  cases template with
  | param index =>
      refine .single interns.grown reads.sound (fun id known => ?_) result
      simp only [instantiate] at known ⊢
      cases given : arguments[index]? with
      | some argument => exact Or.inl (by simpa [given] using known)
      | none =>
          simp only [given] at known
          exact internType_old known
  | named name templates nullable =>
      obtain ⟨argued, _⟩ := reads.sound.instantiateAll supplies templates
      let called := (table.instantiateAll arguments params templates).2.internName name
      have own := (argued.sound.internName name).1.grown.trans (internType_grown
        ⟨called.1, (table.instantiateAll arguments params templates).1, nullable⟩)
      refine (reads.instantiateAll_adds supplies templates).trans ?_
      refine .single own argued.sound (fun id known => ?_) result
      simp only [instantiate] at known ⊢
      exact internType_old known
termination_by sizeOf template

theorem Reads.instantiateAll_adds {table : TypeTable}
    (reads : table.Reads arguments params trees names) (supplies : table.Supplies arguments params)
    (templates : List TypeTemplate)
    : Adds table (table.instantiateAll arguments params templates).2
        (TypeTemplate.partsAll trees names templates) := by
  cases templates with
  | nil => exact fun _ _ denotes => Or.inl denotes
  | cons template rest =>
      obtain ⟨interns, _⟩ := reads.sound.instantiate supplies template
      exact (reads.instantiate_adds supplies template).trans
        ((reads.grow interns).instantiateAll_adds (supplies.grow interns.grown) rest)
termination_by sizeOf templates

end

/-- The supertypes add what their instances are made of, and their nullable forms where they take
these, by induction on the templates.
-/
theorem Reads.instantiateLifted_adds (reads : table.Reads arguments params trees names)
    (supplies : table.Supplies arguments params) (lift : Bool) (templates : List TypeTemplate)
    : Adds table (table.instantiateLifted arguments params lift templates).2
        (templates.flatMap fun template =>
          template.parts trees names ++ [(template.substitute trees names).lift lift]) := by
  induction templates generalizing table with
  | nil => exact fun _ _ denotes => Or.inl denotes
  | cons template rest ih =>
      obtain ⟨interns, inst⟩ := reads.sound.instantiate supplies template
      have first := reads.instantiate_adds supplies template
      have read := reads.grow interns
      have supplied := supplies.grow interns.grown
      rw [List.flatMap_cons]
      simp only [instantiateLifted]
      cases lift with
      | false => exact (first.trans fun _ _ denotes => Or.inl denotes).trans (ih read supplied)
      | true =>
          obtain ⟨nullable, lifts⟩ := interns.sound.nullable (inst.lt_size supplied)
          have lifted := lifts.denotes ((inst.denotes read).grow read.sound nullable.grown)
          have form := Adds.single nullable.grown read.sound (fun _ => nullable_old) lifted
          exact (first.trans form).trans (ih (read.grow nullable) (supplied.grow nullable.grown))

-----------------------------------------------------------------------------------------
-- A run brings in types of the closure only
-----------------------------------------------------------------------------------------

/-- All types of the second table belong to the closure of the first one. -/
def Within (headers : List ClassHeader) (start table : TypeTable) : Prop :=
  ∀ id tree, table.Denotes id tree → Closure headers start tree

variable {start : TypeTable}

/-- The supertypes of a type bring in types of the closure only. -/
theorem Within.supertypes (within : Within headers start table) (sound : table.Sound)
    (records : Records headers table) (known : id < table.size)
    : Within headers start (table.supertypes id).2 := by
  obtain ⟨data, found⟩ := get?_isSome_iff.mpr known
  have fits := sound.fits found
  obtain ⟨trees, inner⟩ := exists_denotesAll fun argument member =>
    sound.exists_denotes (fits.arguments argument member)
  have named := sound.head_named found
  simp only [TypeTable.supertypes, found]
  cases last : lastHeader? headers (table.interner.resolve data.head) with
  | none =>
      rw [records.class_of_undeclared named last]
      exact within
  | some header =>
      obtain ⟨params, declared, paramNames⟩ := records.class_of_declared sound named last
      rw [declared]
      have reads : table.Reads data.arguments params trees header.params :=
        ⟨sound, inner, paramNames⟩
      have supplies : table.Supplies data.arguments params :=
        ⟨fits.arguments, sound.params declared⟩
      have owner := within id _ (.applied found inner)
      intro other tree denotes
      rcases reads.instantiateLifted_adds supplies data.nullable header.templates other tree denotes
        with old | new
      · exact within other tree old
      · obtain ⟨template, member, new⟩ := List.mem_flatMap.mp new
        rcases List.mem_append.mp new with part | whole
        · exact .part owner last member part
        · exact List.mem_singleton.mp whole ▸ .supertype owner last member

/-- A run brings in types of the closure only, by induction on its turns. -/
theorem Settled.sealWithin_within {known : Array (List TypeId)} (settled : table.Settled known)
    (records : Records headers table) (within : Within headers start table) (budget : Nat)
    : Within headers start (table.sealWithin known budget).table := by
  induction budget generalizing table known with
  | zero => exact within
  | succ budget ih =>
      unfold sealWithin
      split
      · rename_i more
        obtain ⟨interns, next⟩ := settled.step more
        exact ih next (records.grow interns.grown interns.classes)
          (within.supertypes settled.sound records more)
      · exact within

-----------------------------------------------------------------------------------------
-- A finished run has brought in the closure
-----------------------------------------------------------------------------------------

mutual

/-- A table that holds an instance holds what it is made of, by recursion on the template. -/
theorem Instance.holds_parts (reads : table.Reads arguments params trees names)
    {template : TypeTemplate} {id : TypeId} (inst : table.Instance arguments params template id)
    : ∀ tree ∈ template.parts trees names, ∃ id, table.Denotes id tree := by
  have own := inst.denotes reads
  intro tree member
  cases template with
  | param index => exact ⟨id, List.mem_singleton.mp member ▸ own⟩
  | named name templates nullable =>
      rcases List.mem_append.mp member with inside | last
      · cases inst with
        | named inner _ _ => exact inner.holds_parts reads tree inside
      · exact ⟨id, List.mem_singleton.mp last ▸ own⟩
termination_by sizeOf template

theorem Instances.holds_parts (reads : table.Reads arguments params trees names)
    {templates : List TypeTemplate} {ids : List TypeId}
    (inst : table.Instances arguments params templates ids)
    : ∀ tree ∈ TypeTemplate.partsAll trees names templates, ∃ id, table.Denotes id tree := by
  intro tree member
  cases inst with
  | nil => cases member
  | cons first others =>
      rcases List.mem_append.mp member with inside | later
      · exact first.holds_parts reads tree inside
      · exact others.holds_parts reads tree later
termination_by sizeOf templates

end

theorem LiftedInstances.holds (reads : table.Reads arguments params trees names) {lift : Bool}
    (inst : table.LiftedInstances arguments params lift templates ids)
    (member : template ∈ templates)
    : (∀ tree ∈ template.parts trees names, ∃ id, table.Denotes id tree)
      ∧ ∃ id, table.Denotes id ((template.substitute trees names).lift lift) := by
  induction inst with
  | nil => cases member
  | plain first _ ih =>
      rcases List.mem_cons.mp member with rfl | later
      · have denotes := first.denotes reads
        rw [← TypeTree.lift_false (TypeTemplate.substitute _ _ _)] at denotes
        exact ⟨first.holds_parts reads, _, denotes⟩
      · exact ih later
  | lifted first lifts _ ih =>
      rcases List.mem_cons.mp member with rfl | later
      · exact ⟨first.holds_parts reads, _, lifts.denotes (first.denotes reads)⟩
      · exact ih later

/-- The supertypes of all its types are in the table. -/
def Closed (table : TypeTable) : Prop :=
  ∀ id < table.size, ∃ ids, table.HasSupertypes id ids

/-- A run that has gone through its whole table leaves it closed. -/
theorem Settled.closed {known : Array (List TypeId)} (settled : table.Settled known)
    (whole : known.size = table.size)
    : table.Closed := by
  intro id inside
  exact ⟨_, settled.right id _ (Array.getElem?_eq_getElem (whole ▸ inside))⟩

theorem Closed.holds (closed : table.Closed) (sound : table.Sound) (records : Records headers table)
    {name : String} {nullable : Bool} {header : ClassHeader}
    (denotes : table.Denotes id (.applied name trees nullable))
    (last : lastHeader? headers name = some header) (declared : template ∈ header.templates)
    : (∀ tree ∈ template.parts trees header.params, ∃ id, table.Denotes id tree)
      ∧ ∃ id, table.Denotes id ((template.substitute trees header.params).lift nullable) := by
  cases denotes with
  | applied found inner =>
      obtain ⟨ids, has⟩ := closed id (lt_size_of_get? found)
      obtain ⟨params, known, paramNames⟩ :=
        records.class_of_declared sound (sound.head_named found) last
      cases has with
      | undeclared again absent =>
          obtain rfl := Option.some.inj (found.symm.trans again)
          cases absent.symm.trans known
      | declared again other inst =>
          obtain rfl := Option.some.inj (found.symm.trans again)
          obtain rfl := Option.some.inj (known.symm.trans other)
          exact inst.holds ⟨sound, inner, paramNames⟩ declared

/-- A closed table that has grown from another one holds the closure of that one, by induction on
the closure.
-/
theorem Closure.denoted (closure : Closure headers start tree) (sound : start.Sound)
    (interns : Interns start table) (records : Records headers table) (closed : table.Closed)
    : ∃ id, table.Denotes id tree := by
  induction closure with
  | held denotes => exact ⟨_, denotes.grow sound interns.grown⟩
  | part _ last declared member ih =>
      obtain ⟨id, denotes⟩ := ih
      exact (closed.holds interns.sound records denotes last declared).1 _ member
  | supertype _ last declared ih =>
      obtain ⟨id, denotes⟩ := ih
      exact (closed.holds interns.sound records denotes last declared).2

/-- A table holds as many trees as it has types. -/
theorem Sound.encard_denoted (sound : table.Sound)
    : {tree | ∃ id, table.Denotes id tree}.encard = table.size := by
  choose tree denotes using fun id : Fin table.size => sound.exists_denotes id.isLt
  have injective : Function.Injective tree := fun id other same =>
    Fin.ext (sound.eq_of_denotes (denotes id) (same ▸ denotes other))
  have range : {tree | ∃ id, table.Denotes id tree} = Set.range tree := by
    ext other
    constructor
    · rintro ⟨id, given⟩
      exact ⟨⟨id, given.lt_size⟩, (denotes ⟨id, given.lt_size⟩).unique given⟩
    · rintro ⟨id, rfl⟩
      exact ⟨id, denotes id⟩
  rw [range, ← Set.image_univ, injective.encard_image, Set.encard_univ,
    ENat.card_eq_coe_fintype_card, Fintype.card_fin]

end TypeTable

end PropertyLint
