import PropertyLint.Proofs.Text.InternerRelation
import PropertyLint.TypeTable.Basic

/-! Interned types keep their numbers.
A table finds a number for a type exactly when it stores the type there, and it only appends. Each
operation is described by what it adds and what its result stands for; asking again for what the
table knows already changes nothing.
-/

namespace PropertyLint.TypeTable

variable {table before middle after : TypeTable} {data : TypeData} {id : TypeId}

theorem get?_isSome_iff : (∃ data, table.get? id = some data) ↔ id < table.size := by
  simp [← Option.isSome_iff_exists, get?, size]

theorem lt_size_of_get? (found : table.get? id = some data) : id < table.size :=
  get?_isSome_iff.mp ⟨data, found⟩

-----------------------------------------------------------------------------------------
-- The invariant of a table and its growth
-----------------------------------------------------------------------------------------

/-- The name and the arguments of the type are in the table. -/
structure Fits (table : TypeTable) (data : TypeData) : Prop where
  head : data.head < table.interner.size
  arguments : ∀ argument ∈ data.arguments, argument < table.size

/-- All that every table satisfies whose callers give existing arguments only. The empty name has
its number from the start, and every argument has a smaller number than its type.
-/
structure Sound (table : TypeTable) : Prop where
  names : table.interner.Consistent
  emptyName : table.interner.names[0]? = some ""
  types : Numbered table.types table.typeIds
  heads : ∀ {id data}, table.get? id = some data → data.head < table.interner.size
  descending
    : ∀ {id data}, table.get? id = some data → ∀ argument ∈ data.arguments, argument < id
  params
    : ∀ {atom : Atom} {declaration},
        table.classes[atom]? = some declaration
        → ∀ param ∈ declaration.params, param < table.interner.size

/-- What has a number in `before` has the same number in `after`. -/
structure Grown (before after : TypeTable) : Prop where
  names : before.interner.Extends after.interner
  types : ∀ {id data}, before.get? id = some data → after.get? id = some data

/-- `after` is a sound table that has come from `before` by interning alone. -/
structure Interns (before after : TypeTable) : Prop where
  sound : after.Sound
  grown : Grown before after
  classes : after.classes = before.classes
  declarationTypes : after.declarationTypes = before.declarationTypes

theorem Grown.refl (table : TypeTable) : Grown table table where
  names := .refl _
  types found := found

theorem Grown.trans (first : Grown before middle) (second : Grown middle after)
    : Grown before after where
  names := first.names.trans second.names
  types found := second.types (first.types found)

theorem Grown.lt_size (grown : Grown before after) (known : id < before.size)
    : id < after.size := by
  obtain ⟨data, found⟩ := get?_isSome_iff.mpr known
  exact lt_size_of_get? (grown.types found)

theorem Interns.refl (sound : table.Sound) : Interns table table :=
  ⟨sound, .refl table, rfl, rfl⟩

theorem Interns.trans (first : Interns before middle) (second : Interns middle after)
    : Interns before after where
  sound := second.sound
  grown := first.grown.trans second.grown
  classes := second.classes.trans first.classes
  declarationTypes := second.declarationTypes.trans first.declarationTypes

variable (sound : table.Sound)

include sound

/-- A type in the table fits into it: its arguments come before it. -/
theorem Sound.fits (found : table.get? id = some data) : table.Fits data where
  head := sound.heads found
  arguments argument member :=
    Nat.lt_trans (sound.descending found argument member) (lt_size_of_get? found)

/-- The names of a table exist from its start. -/
theorem Sound.zero_lt_size : 0 < table.interner.size :=
  (Array.getElem?_eq_some_iff.mp sound.emptyName).1

-----------------------------------------------------------------------------------------
-- Names
-----------------------------------------------------------------------------------------

/-- More names keep the table sound, as no type changes. -/
theorem Sound.withInterner {interner : Interner} (consistent : interner.Consistent)
    (extended : table.interner.Extends interner)
    : Sound { table with interner } where
  names := consistent
  emptyName := extended 0 "" sound.emptyName
  types := sound.types
  heads found := extended.lt_size (sound.heads found)
  descending := sound.descending
  params found param member := extended.lt_size (sound.params found param member)

theorem Sound.internName (name : String)
    : Interns table (table.internName name).2
      ∧ (table.internName name).2.interner.names[(table.internName name).1]? = some name := by
  have extended := table.interner.intern_extends name
  refine ⟨?_, sound.names.intern_names name⟩
  exact {
    sound := sound.withInterner (sound.names.intern name) extended
    grown := ⟨extended, fun found => found⟩
    classes := rfl
    declarationTypes := rfl
  }

/-- A name that has a number keeps it, and nothing changes. -/
theorem Sound.internName_known {name : String} {atom : Atom}
    (known : table.interner.names[atom]? = some name)
    : table.internName name = (atom, table) := by
  rw [TypeTable.internName, sound.names.intern_known known]

-----------------------------------------------------------------------------------------
-- Types
-----------------------------------------------------------------------------------------

/-- A type that is new takes the next number in both directions, behind its arguments. -/
theorem Sound.push (fits : table.Fits data) (absent : table.typeIds[data]? = none)
    : Interns table
        { table with
          types := table.types.push data
          typeIds := table.typeIds.insert data table.size } := by
  have found_iff {id : TypeId} {other : TypeData}
      : (table.types.push data)[id]? = some other
        ↔ table.get? id = some other ∨ id = table.size ∧ data = other := by
    rw [Array.getElem?_push]
    by_cases last : id = table.types.size
    · simp [last, TypeTable.get?, size]
    · simp [last, TypeTable.get?, size]
  exact {
    sound := {
      names := sound.names
      emptyName := sound.emptyName
      types := sound.types.push absent
      heads := by
        intro id other found
        rcases found_iff.mp found with old | ⟨_, rfl⟩
        · exact sound.heads old
        · exact fits.head
      descending := by
        intro id other found
        rcases found_iff.mp found with old | ⟨rfl, rfl⟩
        · exact sound.descending old
        · exact fits.arguments
      params := sound.params
    }
    grown := ⟨.refl _, fun found => found_iff.mpr (Or.inl found)⟩
    classes := rfl
    declarationTypes := rfl
  }

theorem Sound.internType (fits : table.Fits data)
    : Interns table (table.internType data).2
      ∧ (table.internType data).2.get? (table.internType data).1 = some data := by
  unfold TypeTable.internType
  split
  · rename_i id found
    exact ⟨.refl sound, (sound.types data id).mp found⟩
  · rename_i absent
    exact ⟨sound.push fits absent, by simp [TypeTable.get?, size]⟩

/-- A type that has a number keeps it, and nothing changes. -/
theorem Sound.internType_known (found : table.get? id = some data)
    : table.internType data = (id, table) := by
  rw [TypeTable.internType, (sound.types data id).mpr found]

/-- Two numbers of the same type are the same. -/
theorem Sound.eq_of_get? {other : TypeId} (found : table.get? id = some data)
    (otherFound : table.get? other = some data)
    : id = other := by
  have again := (sound.internType_known found).symm.trans (sound.internType_known otherFound)
  exact congrArg Prod.fst again

theorem Sound.classType {arguments : List TypeId}
    (known : ∀ argument ∈ arguments, argument < table.size) (name : String)
    : Interns table (table.classType name arguments).2 := by
  obtain ⟨named, found⟩ := sound.internName name
  have fits : (table.internName name).2.Fits ⟨(table.internName name).1, arguments, false⟩ := {
    head := (Array.getElem?_eq_some_iff.mp found).1
    arguments := known
  }
  exact named.trans (named.sound.internType fits).1

-----------------------------------------------------------------------------------------
-- Nullable forms
-----------------------------------------------------------------------------------------

omit sound

/-- The second type is the nullable form of the first one. -/
def Lifts (table : TypeTable) (id lifted : TypeId) : Prop :=
  ∃ data, table.get? id = some data ∧ table.get? lifted = some { data with nullable := true }

theorem Lifts.grow {lifted : TypeId} (lifts : before.Lifts id lifted) (grown : Grown before after)
    : after.Lifts id lifted := by
  rcases lifts with ⟨data, found, liftedFound⟩
  exact ⟨data, grown.types found, grown.types liftedFound⟩

/-- A type that is not in the table has no nullable form of its own. -/
theorem nullable_missing (missing : ¬ id < table.size) : table.nullable id = (id, table) := by
  have absent : table.get? id = none := by simpa [TypeTable.get?, size] using missing
  simp [nullable, absent]

include sound

theorem Sound.nullable (known : id < table.size)
    : Interns table (table.nullable id).2
      ∧ (table.nullable id).2.Lifts id (table.nullable id).1 := by
  obtain ⟨data, found⟩ := get?_isSome_iff.mpr known
  have old := sound.fits found
  simp only [TypeTable.nullable, found]
  split
  · rename_i already
    refine ⟨.refl sound, data, found, ?_⟩
    rw [← already]
    exact found
  · have fits : table.Fits { data with nullable := true } := ⟨old.head, old.arguments⟩
    obtain ⟨interns, lifted⟩ := sound.internType fits
    exact ⟨interns, data, interns.grown.types found, lifted⟩

/-- A nullable form that has a number keeps it, and nothing changes. -/
theorem Sound.nullable_known {lifted : TypeId} (lifts : table.Lifts id lifted)
    : table.nullable id = (lifted, table) := by
  rcases lifts with ⟨data, found, liftedFound⟩
  simp only [TypeTable.nullable, found]
  split
  · rename_i already
    rw [← already] at liftedFound
    rw [sound.eq_of_get? found liftedFound]
  · exact sound.internType_known liftedFound

end PropertyLint.TypeTable
