import PropertyLint.Proofs.TypeTable.CallHistory

/-! The class declarations of a history.
Of all declarations of a class only the last one counts. The table holds exactly these, each under
the atom of its name; every other call leaves them alone.
-/

namespace PropertyLint

/-- The supertypes of a declared class. A class that names none has the root class as its only one,
unless it is the root itself.
-/
def ClassHeader.templates (header : ClassHeader) : List TypeTemplate :=
  if header.supertypes.isEmpty ∧ header.name ≠ rootTypeName then [.simple rootTypeName]
  else header.supertypes

/-- The class that a call declares, if any. -/
def TableCall.header? : TableCall → Option ClassHeader
  | .declareClass name params templates => some ⟨name, params, templates⟩
  | .classType .. | .nullable _ | .supertypes _ | .sealTypes | .recordDeclarationType .. => none

/-- The most recent declaration of a class, among declarations from the first to the last. -/
def lastHeader? (headers : List ClassHeader) (name : String) : Option ClassHeader :=
  headers.reverse.find? (·.name = name)

theorem lastHeader?_append (headers : List ClassHeader) (header : ClassHeader) (name : String)
    : lastHeader? (headers ++ [header]) name
      = if header.name = name then some header else lastHeader? headers name := by
  unfold lastHeader?
  rw [List.reverse_append, List.reverse_singleton, List.singleton_append, List.find?_cons]
  by_cases same : header.name = name <;> simp [same]

namespace TypeTable

/-- The root class, as every table declares it first. -/
def rootHeader : ClassHeader :=
  { name := rootTypeName }

/-- The table results from one of the initial tables by calls with existing arguments, and these are
all class declarations of the history in their order.
-/
inductive Built : List ClassHeader → TypeTable → Prop
  | empty : Built [rootHeader] .empty
  | withBuiltins : Built (rootHeader :: builtinClasses) .withBuiltins
  | step {headers table} (earlier : Built headers table) (call : TableCall)
    (allowed : call.Allowed table)
    : Built (headers ++ call.header?.toList) (call.apply table)

variable {headers : List ClassHeader} {table before after : TypeTable} {name : String}
  {atom : Atom}

/-- Every history that can be recorded is one, and every history can be recorded. -/
theorem reachable_iff_built : Reachable table ↔ ∃ headers, Built headers table := by
  constructor
  · intro reachable
    induction reachable with
    | empty => exact ⟨_, .empty⟩
    | withBuiltins => exact ⟨_, .withBuiltins⟩
    | step _ call allowed ih =>
        obtain ⟨headers, earlier⟩ := ih
        exact ⟨_, earlier.step call allowed⟩
  · rintro ⟨headers, built⟩
    induction built with
    | empty => exact .empty
    | withBuiltins => exact .withBuiltins
    | step _ call allowed ih => exact ih.step call allowed

/-- The table holds the last declaration of each class, and no other class. -/
structure Records (headers : List ClassHeader) (table : TypeTable) : Prop where
  declared
    : ∀ {name header},
        lastHeader? headers name = some header
        → ∃ (atom : Atom) (params : List Atom),
            table.interner.names[atom]? = some name
            ∧ table.interner.Names params header.params
            ∧ table.classes[atom]? = some ⟨params, header.templates⟩
  known
    : ∀ {atom : Atom} {declaration},
        table.classes[atom]? = some declaration
        → ∃ name header,
            table.interner.names[atom]? = some name ∧ lastHeader? headers name = some header

-----------------------------------------------------------------------------------------
-- Every call keeps the records
-----------------------------------------------------------------------------------------

/-- Names and types that are added declare no class. -/
theorem Records.grow (records : Records headers before) (grown : Grown before after)
    (classes : after.classes = before.classes)
    : Records headers after where
  declared last := by
    obtain ⟨atom, params, named, paramNames, found⟩ := records.declared last
    exact ⟨atom, params, grown.names _ _ named, paramNames.extend grown.names, classes ▸ found⟩
  known found := by
    obtain ⟨name, header, named, last⟩ := records.known (classes ▸ found)
    exact ⟨name, header, grown.names _ _ named, last⟩

/-- A declaration takes the place of the earlier one of its name, and of no other. -/
theorem Records.declareClass (records : Records headers table) (sound : table.Sound)
    (header : ClassHeader)
    : Records (headers ++ [header])
        (table.declareClass header.name header.params header.supertypes) := by
  have consistent := sound.names.intern header.name
  have later := (table.interner.intern header.name).2.internAll_extends header.params
  have extended := (table.interner.intern_extends header.name).trans later
  have own := later _ _ (sound.names.intern_names header.name)
  have params := consistent.internAll_names header.params
  have kept := consistent.internAll header.params
  have other {atom : Atom} {name : String}
      (named : ((table.interner.intern header.name).2.internAll header.params).2.names[atom]?
        = some name)
      (apart : header.name ≠ name)
      : (table.interner.intern header.name).1 ≠ atom := by
    intro same
    rw [← same, own] at named
    exact apart (Option.some.inj named)
  constructor
  · intro name newest last
    rw [lastHeader?_append] at last
    split at last
    · rename_i same
      obtain rfl := Option.some.inj last
      subst same
      exact ⟨_, _, own, params, Std.HashMap.getElem?_insert_self⟩
    · rename_i apart
      obtain ⟨atom, oldParams, named, paramNames, found⟩ := records.declared last
      have named := extended _ _ named
      refine ⟨atom, oldParams, named, paramNames.extend extended, ?_⟩
      simp only [TypeTable.declareClass, Std.HashMap.getElem?_insert]
      simpa [other named apart] using found
  · intro atom declaration found
    simp only [TypeTable.declareClass, Std.HashMap.getElem?_insert] at found
    split at found
    · rename_i same
      obtain rfl := eq_of_beq same
      exact ⟨header.name, header, own, by simp [lastHeader?_append]⟩
    · obtain ⟨name, old, named, last⟩ := records.known found
      refine ⟨name, if header.name = name then header else old, extended _ _ named, ?_⟩
      rw [lastHeader?_append, last]
      split <;> rfl

/-- Declaring several classes records them all, by induction on them. -/
theorem Records.declareAll (records : Records headers table) (sound : table.Sound)
    (more : List ClassHeader)
    : Records (headers ++ more) (table.declareAll more) := by
  induction more generalizing headers table with
  | nil => simpa [TypeTable.declareAll] using records
  | cons header rest ih =>
      have next := ih (records.declareClass sound header) (sound.declareClass ..).1
      simpa [TypeTable.declareAll] using next

theorem blank_records : Records [] ⟨.empty, #[], ∅, ∅, ∅⟩ where
  declared last := by cases last
  known found := by simp at found

theorem empty_records : Records [rootHeader] .empty :=
  blank_records.declareClass blank_sound rootHeader

theorem withBuiltins_records : Records (rootHeader :: builtinClasses) .withBuiltins :=
  empty_records.declareAll empty_sound builtinClasses

/-- No call but a declaration changes the classes. -/
theorem Sound.classes_apply (sound : table.Sound) (call : TableCall) (allowed : call.Allowed table)
    (other : call.header? = none)
    : (call.apply table).classes = table.classes := by
  cases call with
  | declareClass name params supertypes => cases other
  | classType name arguments => exact (sound.classType allowed name).classes
  | nullable id =>
      by_cases known : id < table.size
      · exact (sound.nullable known).1.classes
      · rw [TableCall.apply, nullable_missing known]
  | supertypes id =>
      by_cases known : id < table.size
      · exact (sound.supertypes known).1.classes
      · rw [TableCall.apply, supertypes_missing known]
  | sealTypes => exact sound.sealed.1.classes
  | recordDeclarationType node id => rfl

/-- After every history the table holds the last declaration of each class, by induction on it. -/
theorem Built.records (built : Built headers table) : Records headers table := by
  induction built with
  | empty => exact empty_records
  | withBuiltins => exact withBuiltins_records
  | @step headers table earlier call allowed ih =>
      have sound := (reachable_iff_built.mpr ⟨headers, earlier⟩).sound
      cases declares : call.header? with
      | none =>
          have same := sound.classes_apply call allowed declares
          simpa using ih.grow (sound.apply call allowed).2 same
      | some header =>
          cases call with
          | declareClass name params supertypes =>
              obtain rfl := Option.some.inj declares
              exact ih.declareClass sound ⟨name, params, supertypes⟩
          | classType | nullable | supertypes | sealTypes | recordDeclarationType => cases declares

-----------------------------------------------------------------------------------------
-- Looking up a class
-----------------------------------------------------------------------------------------

/-- The class of a name that has been declared is the last declaration. -/
theorem Records.class_of_declared (records : Records headers table) (sound : table.Sound)
    {header : ClassHeader} (named : table.interner.names[atom]? = some name)
    (last : lastHeader? headers name = some header)
    : ∃ params,
        table.classes[atom]? = some ⟨params, header.templates⟩
        ∧ table.interner.Names params header.params := by
  obtain ⟨own, params, ownNamed, paramNames, found⟩ := records.declared last
  have first := (sound.names name own).mpr ownNamed
  rw [(sound.names name atom).mpr named] at first
  obtain rfl := Option.some.inj first
  exact ⟨params, found, paramNames⟩

/-- A name that has not been declared has no class. -/
theorem Records.class_of_undeclared (records : Records headers table)
    (named : table.interner.names[atom]? = some name) (absent : lastHeader? headers name = none)
    : table.classes[atom]? = none := by
  rw [Option.eq_none_iff_forall_ne_some]
  intro declaration found
  obtain ⟨other, header, otherNamed, last⟩ := records.known found
  rw [named] at otherNamed
  obtain rfl := Option.some.inj otherNamed
  cases absent.symm.trans last

end TypeTable

end PropertyLint
