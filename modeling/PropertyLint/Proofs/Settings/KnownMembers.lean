import PropertyLint.Proofs.Json.Values
import PropertyLint.Settings.Load

/-! Which settings a text gives depends on its known members only.
A section may hold any members in any order and spelling. Those that are settings give their values,
each at most once, and all others are skipped, whatever they hold; in the settings as a whole,
members other than the section are refused.
-/

namespace PropertyLint

open Json

-----------------------------------------------------------------------------------------
-- How settings are written
-----------------------------------------------------------------------------------------

/-- The keys of the members of a section that are settings. -/
def settingKeys : List String :=
  ["enabled", "message", "severity", "includeSupertypes"]

/-- A member of a section, by what it gives. -/
inductive SectionMember where
  | enabled (value : Bool)
  | message (value : MessageStyle)
  | severity (value : Severity)
  | includeSupertypes (value : Bool)
  /-- A member that is no setting. -/
  | other (name : String) (apart : name ∉ settingKeys)

namespace SectionMember

@[simp] def key : SectionMember → String
  | .enabled _ => "enabled"
  | .message _ => "message"
  | .severity _ => "severity"
  | .includeSupertypes _ => "includeSupertypes"
  | .other name _ => name

@[simp] def enabled? : SectionMember → Option Bool
  | .enabled value => some value
  | _ => none

@[simp] def message? : SectionMember → Option MessageStyle
  | .message value => some value
  | _ => none

@[simp] def severity? : SectionMember → Option Severity
  | .severity value => some value
  | _ => none

@[simp] def includeSupertypes? : SectionMember → Option Bool
  | .includeSupertypes value => some value
  | _ => none

end SectionMember

/-- The settings that the members give, with the defaults for those that they do not. -/
def settingsOf (members : List SectionMember) : InspectionSettings where
  enabled := (members.findSome? SectionMember.enabled?).getD true
  message := (members.findSome? SectionMember.message?).getD .noTypeReference
  severity := (members.findSome? SectionMember.severity?).getD .warning
  includeSupertypes := (members.findSome? SectionMember.includeSupertypes?).getD true

/-- No setting is given twice. -/
def GivenOnce (members : List SectionMember) : Prop :=
  ∀ key ∈ settingKeys, (members.map SectionMember.key).count key ≤ 1

/-- A key in any spelling, with its colon and the blanks around. -/
def WritesKey (key : String) (text : List Char) : Prop :=
  ∃ before inner between after,
    Blank before ∧ Spells key.toList inner ∧ Blank between ∧ Blank after
    ∧ text = before ++ '"' :: (inner ++ '"' :: (between ++ ':' :: after))

/-- A name from a choice, as a string or as the only key of an object whose member is `null`. -/
inductive WritesName (name : String) : List Char → Prop
  | plain {inner} (spells : Spells name.toList inner) : WritesName name ('"' :: (inner ++ ['"']))
  | wrapped {key after} (keyed : WritesKey name key) (blank : Blank after)
    : WritesName name ('\x7b' :: (key ++ (['n', 'u', 'l', 'l'] ++ (after ++ ['\x7d']))))

def boolWord (value : Bool) : List Char :=
  if value then ['t', 'r', 'u', 'e'] else ['f', 'a', 'l', 's', 'e']

/-- The value of a member: what it gives, or anything for a member that is no setting. -/
def SectionMember.WritesValue : SectionMember → List Char → Prop
  | .enabled value, text => text = boolWord value
  | .message value, text => WritesName value.key text
  | .severity value, text => WritesName value.key text
  | .includeSupertypes value, text => text = boolWord value
  | .other _ _, text => IsValue text

def SectionMember.Writes (member : SectionMember) (text : List Char) : Prop :=
  ∃ key value, WritesKey member.key key ∧ member.WritesValue value ∧ text = key ++ value

/-- Members with commas between them and blanks around. -/
inductive WritesRun {α : Type} (writes : α → List Char → Prop) : List α → List Char → Prop
  | last {item text after} (written : writes item text) (blank : Blank after)
    : WritesRun writes [item] (text ++ after)
  | more {item items text after rest} (written : writes item text) (blank : Blank after)
    (run : WritesRun writes items rest)
    : WritesRun writes (item :: items) (text ++ (after ++ ',' :: rest))

/-- An object with the given members. -/
inductive WritesObject {α : Type} (writes : α → List Char → Prop) : List α → List Char → Prop
  | empty {text} (blank : Blank text) : WritesObject writes [] ('\x7b' :: (text ++ ['\x7d']))
  | filled {items text} (run : WritesRun writes items text)
    : WritesObject writes items ('\x7b' :: (text ++ ['\x7d']))

/-- A text that begins as an object with the given members and then a further key, whatever follows
this key.
-/
inductive BeginsObject {α : Type} (writes : α → List Char → Prop)
    : List α → String → List Char → Prop
  | first {name blank inner rest} (blanks : Blank blank) (spells : Spells name.toList inner)
    : BeginsObject writes [] name ('\x7b' :: (blank ++ '"' :: (inner ++ '"' :: rest)))
  | later {items name text blank inner rest} (run : WritesRun writes items text)
    (blanks : Blank blank) (spells : Spells name.toList inner)
    : BeginsObject writes items name
        ('\x7b' :: (text ++ ',' :: (blank ++ '"' :: (inner ++ '"' :: rest))))

/-- The member of the settings that is the section with the given members. -/
def WritesSection (members : List SectionMember) (text : List Char) : Prop :=
  ∃ key object,
    WritesKey sectionKey key ∧ WritesObject SectionMember.Writes members object
    ∧ text = key ++ object

variable {α : Type} {text rest before after start : List Char} {name : String}
  {members earlier : List SectionMember} {member : SectionMember}

-----------------------------------------------------------------------------------------
-- Keys and names
-----------------------------------------------------------------------------------------

theorem readString_append {inner : List Char} (spells : Spells name.toList inner)
    : readString (inner ++ '"' :: rest) = .ok (name, rest) := by
  rw [readString, spells.readChars]
  simp only [Except.map, String.ofList_toList]

/-- A key is read back, and behind its colon only blanks are left of it. -/
theorem WritesKey.read (written : WritesKey name text) (rest : List Char)
    : ∃ start between after,
        skipBlank (text ++ rest) = '"' :: start
        ∧ readString start = .ok (name, between)
        ∧ expectColon between = .ok (after ++ rest)
        ∧ Blank after := by
  obtain ⟨before, inner, between, after, blank, spells, blankBetween, blankAfter, rfl⟩ := written
  simp only [List.append_assoc, List.cons_append]
  refine ⟨inner ++ '"' :: (between ++ ':' :: (after ++ rest)), between ++ ':' :: (after ++ rest),
    after, ?_, readString_append spells, expectColon_append blankBetween, blankAfter⟩
  rw [skipBlank_append_inked blank (by decide)]

theorem nextMember_first (opening : skipBlank text = '"' :: start)
    : nextMember true text = .ok (.key start) := by
  rw [nextMember, opening]
  rfl

theorem nextMember_later (blank : Blank before) (opening : skipBlank text = '"' :: start)
    : nextMember false (before ++ ',' :: text) = .ok (.key start) := by
  rw [nextMember, skipBlank_append_inked blank (by decide)]
  simp [opening]

theorem nextMember_close (first : Bool) (blank : Blank before)
    : nextMember first (before ++ '\x7d' :: rest) = .ok (.close rest) := by
  rw [nextMember, skipBlank_append_inked blank (by decide)]
  rfl

theorem readName_known {names : List (String × α)} {value : α}
    (opening : skipBlank text = '"' :: start) (read : readString start = .ok (name, rest))
    (known : names.lookup name = some value)
    : readName names text = .ok (value, rest) := by
  rw [readName, opening]
  simp only [read, bind, Except.bind, known]

theorem readNull_append (blank : Blank before)
    : readNull (before ++ (['n', 'u', 'l', 'l'] ++ rest)) = .ok rest := by
  rw [readNull, skipBlank_append blank]
  exact expectWord_append ['u', 'l', 'l'] rest

theorem readBool_append (blank : Blank before) (value : Bool)
    : readBool (before ++ (boolWord value ++ rest)) = .ok (value, rest) := by
  rw [readBool, skipBlank_append blank]
  cases value with
  | true => exact congrArg (Except.map (true, ·)) (expectWord_append ['r', 'u', 'e'] rest)
  | false => exact congrArg (Except.map (false, ·)) (expectWord_append ['a', 'l', 's', 'e'] rest)

/-- Either way to write a name from a choice is read as what the name stands for. -/
theorem WritesName.read {names : List (String × α)} {value : α} (written : WritesName name text)
    (known : names.lookup name = some value) (blank : Blank before)
    : readChoice names (before ++ (text ++ rest)) = .ok (value, rest) := by
  cases written with
  | @plain inner spells =>
      have opening : skipBlank (before ++ ('"' :: (inner ++ ['"']) ++ rest))
          = '"' :: (inner ++ '"' :: rest) := by
        simp only [List.append_assoc, List.cons_append, List.nil_append, skipBlank_append blank]
        exact skipBlank_inked (by decide)
      rw [readChoice, opening]
      exact readName_known opening (readString_append spells) known
  | @wrapped key after keyed blankAfter =>
      obtain ⟨start, between, gap, opening, read, colon, blankGap⟩ :=
        keyed.read (['n', 'u', 'l', 'l'] ++ (after ++ '\x7d' :: rest))
      have bracket : skipBlank
          (before ++ ('\x7b' :: (key ++ (['n', 'u', 'l', 'l'] ++ (after ++ ['\x7d']))) ++ rest))
          = '\x7b' :: (key ++ (['n', 'u', 'l', 'l'] ++ (after ++ '\x7d' :: rest))) := by
        simp only [List.append_assoc, List.cons_append, List.nil_append, skipBlank_append blank]
        exact skipBlank_inked (by decide)
      have closing : skipBlank (after ++ '\x7d' :: rest) = '\x7d' :: rest := by
        rw [skipBlank_append_inked blankAfter (by decide)]
      rw [readChoice, bracket]
      simp only [readName_known opening read known, bind, Except.bind, colon,
        readNull_append blankGap, closing]

-----------------------------------------------------------------------------------------
-- Members of a section
-----------------------------------------------------------------------------------------

/-- What has been read of a section after the members. -/
def SectionMembers.ofMembers (members : List SectionMember) : SectionMembers where
  enabled := members.findSome? SectionMember.enabled?
  message := members.findSome? SectionMember.message?
  severity := members.findSome? SectionMember.severity?
  includeSupertypes := members.findSome? SectionMember.includeSupertypes?

/-- A setting is selected by its key: exactly the members with this key give a value. -/
def Selects (select : SectionMember → Option α) (name : String) : Prop :=
  ∀ member : SectionMember, (select member).isSome ↔ member.key = name

theorem selects_settings
    : Selects SectionMember.enabled? "enabled"
      ∧ Selects SectionMember.message? "message"
      ∧ Selects SectionMember.severity? "severity"
      ∧ Selects SectionMember.includeSupertypes? "includeSupertypes" := by
  refine ⟨?_, ?_, ?_, ?_⟩
  all_goals
    intro member
    cases member with
    | other name apart =>
        refine ⟨nofun, ?_⟩
        rintro rfl
        exact absurd (by decide) apart
    | _ => simp

variable {select : SectionMember → Option α}

theorem Selects.absent (selects : Selects select name)
    (absent : name ∉ members.map SectionMember.key)
    : members.findSome? select = none := by
  refine List.findSome?_eq_none_iff.mpr fun member listed => ?_
  refine Option.not_isSome_iff_eq_none.mp fun given => absent ?_
  exact List.mem_map.mpr ⟨member, listed, (selects member).mp given⟩

theorem Selects.given (selects : Selects select name)
    (given : name ∈ members.map SectionMember.key)
    : (members.findSome? select).isSome := by
  obtain ⟨member, listed, key⟩ := List.mem_map.mp given
  exact List.findSome?_isSome_iff.mpr ⟨member, listed, (selects member).mpr key⟩

/-- What a further member gives counts if nothing has been given before. -/
theorem ofMembers_snoc (earlier : List SectionMember) (member : SectionMember)
    : SectionMembers.ofMembers (earlier ++ [member])
      = ⟨(SectionMembers.ofMembers earlier).enabled.or member.enabled?,
          (SectionMembers.ofMembers earlier).message.or member.message?,
          (SectionMembers.ofMembers earlier).severity.or member.severity?,
          (SectionMembers.ofMembers earlier).includeSupertypes.or member.includeSupertypes?⟩ := by
  simp [SectionMembers.ofMembers, List.findSome?_append]

/-- A value that has not come before is read. -/
theorem readOnce_fresh {read : List Char → Except Fault (α × List Char)} {known : Option α}
    {value : α} (fresh : known = none) (colon : expectColon start = .ok text)
    (reads : read text = .ok (value, rest))
    : SectionMembers.readOnce name known read start = .ok (value, rest) := by
  simp only [SectionMembers.readOnce, fresh, Option.isSome_none, Bool.false_eq_true, if_false,
    colon, Except.bind, reads]

theorem lookup_style (style : MessageStyle)
    : (MessageStyle.all.map fun style => (style.key, style)).lookup style.key = some style := by
  cases style <;> decide

theorem lookup_severity (severity : Severity)
    : (Severity.all.map fun severity => (severity.key, severity)).lookup severity.key
      = some severity := by
  cases severity <;> decide

/-- The value of a member that has not come before is read and noted, and that of a member that is
no setting is skipped.
-/
theorem readMember_eq (written : member.WritesValue text) (blank : Blank before) (ends : Ends rest)
    (fresh : member.key ∈ settingKeys → member.key ∉ earlier.map SectionMember.key)
    (colon : expectColon start = .ok (before ++ (text ++ rest)))
    : (SectionMembers.ofMembers earlier).readMember member.key start
      = .ok (SectionMembers.ofMembers (earlier ++ [member]), rest) := by
  obtain ⟨enabled, message, severity, includeSupertypes⟩ := selects_settings
  rw [ofMembers_snoc]
  cases member with
  | enabled value =>
      have absent : (SectionMembers.ofMembers earlier).enabled = none :=
        enabled.absent (fresh (by simp [settingKeys]))
      obtain rfl : text = boolWord value := written
      rw [SectionMember.key, SectionMembers.readMember,
        readOnce_fresh absent colon (readBool_append blank value), absent]
      simp [pure, Except.pure, bind, Except.bind]
  | message value =>
      have absent : (SectionMembers.ofMembers earlier).message = none :=
        message.absent (fresh (by simp [settingKeys]))
      rw [SectionMember.key, SectionMembers.readMember, SectionMembers.readMessage,
        readOnce_fresh absent colon (WritesName.read written (lookup_style value) blank), absent]
      simp [pure, Except.pure, bind, Except.bind]
  | severity value =>
      have absent : (SectionMembers.ofMembers earlier).severity = none :=
        severity.absent (fresh (by simp [settingKeys]))
      rw [SectionMember.key, SectionMembers.readMember, SectionMembers.readSeverity,
        readOnce_fresh absent colon (WritesName.read written (lookup_severity value) blank), absent]
      simp [pure, Except.pure, bind, Except.bind]
  | includeSupertypes value =>
      have absent : (SectionMembers.ofMembers earlier).includeSupertypes = none :=
        includeSupertypes.absent (fresh (by simp [settingKeys]))
      obtain rfl : text = boolWord value := written
      rw [SectionMember.key, SectionMembers.readMember,
        readOnce_fresh absent colon (readBool_append blank value), absent]
      simp [pure, Except.pure, bind, Except.bind]
  | other name apart =>
      have skipped := IsValue.skipValue written blank ends
      rw [SectionMember.key, SectionMembers.readMember]
      · simp [colon, skipped, pure, Except.pure, bind, Except.bind]
      all_goals
        rintro rfl
        exact apart (by simp [settingKeys])

/-- A setting that has been given already is refused before its value is looked at. -/
theorem readMember_repeated (known : name ∈ settingKeys)
    (given : name ∈ members.map SectionMember.key)
    : (SectionMembers.ofMembers members).readMember name start
      = .error (.mismatch (.duplicateField name)) := by
  obtain ⟨enabled, message, severity, includeSupertypes⟩ := selects_settings
  simp only [settingKeys, List.mem_cons, List.not_mem_nil, or_false] at known
  rcases known with rfl | rfl | rfl | rfl
  · have noted : (SectionMembers.ofMembers members).enabled.isSome := enabled.given given
    rw [SectionMembers.readMember, SectionMembers.readOnce, if_pos noted]
    rfl
  · have noted : (SectionMembers.ofMembers members).message.isSome := message.given given
    rw [SectionMembers.readMember, SectionMembers.readOnce, if_pos noted]
    rfl
  · have noted : (SectionMembers.ofMembers members).severity.isSome := severity.given given
    rw [SectionMembers.readMember, SectionMembers.readOnce, if_pos noted]
    rfl
  · have noted : (SectionMembers.ofMembers members).includeSupertypes.isSome :=
      includeSupertypes.given given
    rw [SectionMembers.readMember, SectionMembers.readOnce, if_pos noted]
    rfl

-----------------------------------------------------------------------------------------
-- Sections
-----------------------------------------------------------------------------------------

/-- What stands before a member: a comma unless the member is the first. -/
def separator (first : Bool) : List Char :=
  if first then [] else [',']

theorem nextMember_key {first : Bool} (opening : skipBlank text = '"' :: start)
    : nextMember first (separator first ++ text) = .ok (.key start) := by
  cases first with
  | true => exact nextMember_first opening
  | false => exact nextMember_later blank_nil opening

theorem readWithin_blank (noted : SectionMembers) (first : Bool) (budget : Nat)
    (blank : Blank before)
    : noted.readWithin first budget (before ++ text) = noted.readWithin first budget text := by
  cases budget with
  | zero => rfl
  | succ budget =>
      rw [SectionMembers.readWithin, SectionMembers.readWithin, nextMember, nextMember,
        skipBlank_append blank]

theorem readWithin_member {first : Bool} {budget : Nat} (written : member.Writes text)
    (ends : Ends rest)
    (fresh : member.key ∈ settingKeys → member.key ∉ earlier.map SectionMember.key)
    : (SectionMembers.ofMembers earlier).readWithin first (budget + 1)
        (separator first ++ (text ++ rest))
      = (SectionMembers.ofMembers (earlier ++ [member])).readWithin false budget rest := by
  obtain ⟨key, value, keyed, writesValue, rfl⟩ := written
  obtain ⟨start, between, after, opening, read, colon, blank⟩ := keyed.read (value ++ rest)
  rw [SectionMembers.readWithin, List.append_assoc, nextMember_key opening]
  simp only [bind, Except.bind, read, readMember_eq writesValue blank ends fresh colon]

theorem GivenOnce.fresh {later : List SectionMember} (once : GivenOnce (earlier ++ member :: later))
    : member.key ∈ settingKeys → member.key ∉ earlier.map SectionMember.key := by
  intro known listed
  have bound := once member.key known
  rw [List.map_append, List.map_cons, List.count_append, List.count_cons_self] at bound
  have before := List.count_pos_iff.mpr listed
  omega

/-- Members are read one after the other, by induction on them. -/
theorem WritesRun.readWithin (run : WritesRun SectionMember.Writes members text)
    (once : GivenOnce (earlier ++ members)) (ends : Ends rest) (first : Bool) (budget : Nat)
    : (SectionMembers.ofMembers earlier).readWithin first (budget + members.length)
        (separator first ++ (text ++ rest))
      = (SectionMembers.ofMembers (earlier ++ members)).readWithin false budget rest := by
  induction run generalizing earlier first with
  | last written blank =>
      rw [List.append_assoc]
      exact (readWithin_member written (blank.ends ends) once.fresh).trans
        (readWithin_blank _ _ _ blank)
  | @more member items text after later written blank run ih =>
      -- The comma ends a number before it, and it is the separator of the members behind it.
      have comma : Ends (after ++ ',' :: (later ++ rest)) :=
        blank.ends (ends_cons (by decide) (by decide))
      have following : GivenOnce (earlier ++ [member] ++ items) := by
        rwa [List.append_assoc, List.singleton_append]
      have next := ih following false
      rw [List.append_assoc earlier, List.singleton_append] at next
      simp only [List.append_assoc, List.cons_append]
      rw [List.length_cons, ← Nat.add_assoc, readWithin_member written comma once.fresh,
        readWithin_blank _ _ _ blank]
      exact next

theorem SectionMember.Writes.length_pos (written : member.Writes text) : 0 < text.length := by
  obtain ⟨_, _, ⟨_, _, _, _, _, _, _, _, rfl⟩, _, rfl⟩ := written
  simp only [List.length_append, List.length_cons]
  omega

/-- Every member takes text. -/
theorem WritesRun.length_le (run : WritesRun SectionMember.Writes members text)
    : members.length ≤ text.length := by
  induction run with
  | last written blank =>
      have some := written.length_pos
      simp only [List.length_cons, List.length_nil, List.length_append]
      omega
  | more _ _ _ ih =>
      simp only [List.length_cons, List.length_append]
      omega

theorem readSection_object (opening : skipBlank text = '\x7b' :: start)
    : readSection text
      = ((SectionMembers.ofMembers []).readWithin true (start.length + 1) start).bind
          fun (noted, rest) => .ok (noted.toSettings, rest) := by
  rw [readSection, opening]
  rfl

/-- The budget of a section suffices for its members and for what comes behind them. -/
theorem readWithin_section (run : WritesRun SectionMember.Writes members text)
    (once : GivenOnce members) (ends : Ends rest)
    : ∃ budget,
        (SectionMembers.ofMembers []).readWithin true ((text ++ rest).length + 1) (text ++ rest)
        = (SectionMembers.ofMembers members).readWithin false (budget + 1) rest := by
  refine ⟨(text ++ rest).length - members.length, ?_⟩
  have budget : (text ++ rest).length + 1
      = (text ++ rest).length - members.length + 1 + members.length := by
    have enough := run.length_le
    rw [List.length_append]
    omega
  have onceFromStart : GivenOnce ([] ++ members) := once
  rw [budget]
  exact run.readWithin onceFromStart ends true _

/-- A section is read as the settings that its members give. -/
theorem readSection_eq {object : List Char}
    (written : WritesObject SectionMember.Writes members object) (once : GivenOnce members)
    (blank : Blank before)
    : readSection (before ++ (object ++ rest)) = .ok (settingsOf members, rest) := by
  have opening : ∀ {text : List Char}, skipBlank (before ++ ('\x7b' :: (text ++ ['\x7d']) ++ rest))
      = '\x7b' :: (text ++ '\x7d' :: rest) := by
    intro text
    rw [skipBlank_append blank, List.cons_append, List.append_assoc]
    exact skipBlank_inked (by decide)
  cases written with
  | empty blankInside =>
      rw [readSection_object opening, SectionMembers.readWithin, nextMember_close true blankInside]
      rfl
  | filled run =>
      obtain ⟨budget, read⟩ := readWithin_section run once
        (show Ends ('\x7d' :: rest) from ends_cons (by decide) (by decide))
      rw [readSection_object opening, read, SectionMembers.readWithin,
        ← List.nil_append ('\x7d' :: rest), nextMember_close false blank_nil]
      rfl

/-- A section in which a setting comes for a second time is refused there. -/
theorem readSection_repeated (begun : BeginsObject SectionMember.Writes members name text)
    (once : GivenOnce members) (known : name ∈ settingKeys)
    (given : name ∈ members.map SectionMember.key) (blank : Blank before)
    : readSection (before ++ text) = .error (.mismatch (.duplicateField name)) := by
  cases begun with
  | first _ _ => cases given
  | @later _ _ front gap inner rest run blankGap spells =>
      have opening {text : List Char} : skipBlank (before ++ '\x7b' :: text) = '\x7b' :: text := by
        rw [skipBlank_append_inked blank (by decide)]
      have key : skipBlank (gap ++ '"' :: (inner ++ '"' :: rest))
          = '"' :: (inner ++ '"' :: rest) := by
        rw [skipBlank_append_inked blankGap (by decide)]
      obtain ⟨budget, read⟩ := readWithin_section run once
        (show Ends (',' :: (gap ++ '"' :: (inner ++ '"' :: rest))) from
          ends_cons (by decide) (by decide))
      rw [readSection_object opening, read, SectionMembers.readWithin,
        ← List.nil_append (',' :: (gap ++ '"' :: (inner ++ '"' :: rest))),
        nextMember_later blank_nil key]
      simp only [bind, Except.bind, readString_append spells, readMember_repeated known given]

-----------------------------------------------------------------------------------------
-- Settings as a whole
-----------------------------------------------------------------------------------------

theorem readSectionKey_section (read : readString start = .ok (sectionKey, rest))
    : readSectionKey start = .ok rest := by
  simp only [readSectionKey, read, bind, Except.bind, if_true]

/-- Behind the section either the settings end, or the fault of a further key is that of the text.
-/
theorem readSections_section (written : WritesSection members text) (once : GivenOnce members)
    : (∀ behind,
        nextMember false rest = .ok (.close behind)
        → readSections (text ++ rest) = .ok ({ propertyType := settingsOf members }, behind))
      ∧ ∀ further fault,
          nextMember false rest = .ok (.key further)
          → readSectionKey further = .error fault
          → readSections (text ++ rest) = .error fault := by
  obtain ⟨key, object, keyed, writesObject, rfl⟩ := written
  obtain ⟨start, between, gap, opening, read, colon, blankGap⟩ := keyed.read (object ++ rest)
  rw [List.append_assoc]
  constructor
  · intro behind closed
    rw [readSections, nextMember_first opening]
    simp only [bind, Except.bind, readSectionKey_section read, colon,
      readSection_eq writesObject once blankGap, closed]
  · intro further fault keyed unknown
    rw [readSections, nextMember_first opening]
    simp only [bind, Except.bind, readSectionKey_section read, colon,
      readSection_eq writesObject once blankGap, keyed, unknown]

/-- A repeated setting in the section is the fault of the whole text. -/
theorem readSections_repeated (keyed : WritesKey sectionKey start)
    (begun : BeginsObject SectionMember.Writes members name text) (once : GivenOnce members)
    (known : name ∈ settingKeys) (given : name ∈ members.map SectionMember.key)
    : readSections (start ++ text) = .error (.mismatch (.duplicateField name)) := by
  obtain ⟨_, between, gap, opening, read, colon, blankGap⟩ := keyed.read text
  rw [readSections, nextMember_first opening]
  simp only [bind, Except.bind, readSectionKey_section read, colon,
    readSection_repeated begun once known given blankGap]

theorem readSectionKey_unknown {inner : List Char} (spells : Spells name.toList inner)
    (unknown : name ≠ sectionKey)
    : readSectionKey (inner ++ '"' :: rest)
      = .error (.mismatch (.unknownField name [sectionKey])) := by
  simp only [readSectionKey, readString_append spells, bind, Except.bind, unknown, if_false]

theorem readSettings_object (blank : Blank before)
    : readSettings (before ++ '\x7b' :: text) = readSections text := by
  rw [readSettings, skipBlank_append_inked blank (by decide)]
  rfl

/-- A key other than that of the section is refused, before the section or behind it. -/
theorem readSettings_unknown {sections : List (List SectionMember)}
    (begun : BeginsObject WritesSection sections name text)
    (single : sections = [] ∨ sections = [members]) (once : GivenOnce members)
    (unknown : name ≠ sectionKey) (blank : Blank before)
    : readSettings (before ++ text) = .error (.mismatch (.unknownField name [sectionKey])) := by
  cases begun with
  | @first _ gap inner rest blankGap spells =>
      have opening : skipBlank (gap ++ '"' :: (inner ++ '"' :: rest))
          = '"' :: (inner ++ '"' :: rest) := by
        rw [skipBlank_append_inked blankGap (by decide)]
      rw [readSettings_object blank, readSections, nextMember_first opening]
      simp only [bind, Except.bind, readSectionKey_unknown spells unknown]
  | @later _ _ _ gap inner rest run blankGap spells =>
      have opening : skipBlank (gap ++ '"' :: (inner ++ '"' :: rest))
          = '"' :: (inner ++ '"' :: rest) := by
        rw [skipBlank_append_inked blankGap (by decide)]
      -- A run is never empty, so exactly one section stands before the key.
      rcases single with rfl | rfl
      · cases run
      · cases run with
        | last written blankAfter =>
            rw [readSettings_object blank, List.append_assoc]
            exact (readSections_section written once).2 _ _ (nextMember_later blankAfter opening)
              (readSectionKey_unknown spells unknown)
        | more _ _ run => cases run

/-- A text of an object that consists of the section gives the settings of its members, whatever
their order, their spelling and the other members between them, and the defaults for the rest.
A setting that comes for a second time is refused, and so is a key beside that of the section,
whatever follows.
-/
theorem settings_depend_on_known_members (once : GivenOnce members)
    : (∀ before object after,
        Blank before
        → WritesObject WritesSection [members] object
        → Blank after
        → Settings.ofText (String.ofList (before ++ object ++ after))
          = .ok { propertyType := settingsOf members })
      ∧ (∀ before key text name,
          Blank before
          → WritesKey sectionKey key
          → BeginsObject SectionMember.Writes members name text
          → name ∈ settingKeys
          → name ∈ members.map SectionMember.key
          → Settings.ofText (String.ofList (before ++ '\x7b' :: (key ++ text)))
            = .error (.invalid (.mismatch (.duplicateField name))))
      ∧ ∀ before sections text name,
          Blank before
          → sections = [] ∨ sections = [members]
          → BeginsObject WritesSection sections name text
          → name ≠ sectionKey
          → Settings.ofText (String.ofList (before ++ text))
            = .error (.invalid (.mismatch (.unknownField name [sectionKey]))) := by
  refine ⟨?_, ?_, ?_⟩
  · intro before object after blank written blankAfter
    have ended : (skipBlank after).isEmpty := by
      have none : skipBlank (after ++ []) = skipBlank [] := skipBlank_append blankAfter
      rw [List.append_nil] at none
      rw [none]
      rfl
    cases written with
    | @filled _ text run =>
        cases run with
        | @last _ text gap written blankGap =>
            have read : readSettings (before ++ '\x7b' :: (text ++ (gap ++ '\x7d' :: after)))
                = .ok ({ propertyType := settingsOf members }, after) := by
              rw [readSettings_object blank]
              exact (readSections_section written once).1 _ (nextMember_close false blankGap)
            simp only [List.append_assoc, List.cons_append, List.nil_append]
            rw [Settings.ofText, Settings.parse, String.toList_ofList, read]
            simp only [bind, Except.bind, ended, if_true]
            rfl
        | more _ _ run => cases run
  · intro before key text name blank keyed begun known given
    rw [Settings.ofText, Settings.parse, String.toList_ofList, readSettings_object blank,
      readSections_repeated keyed begun once known given]
    rfl
  · intro before sections text name blank single begun unknown
    rw [Settings.ofText, Settings.parse, String.toList_ofList,
      readSettings_unknown begun single once unknown blank]
    rfl

/-- A content without quotes, backslashes and control characters spells itself. -/
theorem spells_self {content : List Char}
    (plain : ∀ c ∈ content, 0x20 ≤ c.toNat ∧ c ≠ '"' ∧ c ≠ '\\')
    : Spells content content := by
  induction content with
  | nil => exact .nil
  | cons c content ih =>
      obtain ⟨allowed, noQuote, noEscape⟩ := plain c List.mem_cons_self
      exact .plain allowed noQuote noEscape
        (ih fun c member => plain c (List.mem_cons_of_mem _ member))

theorem writesKey_self {name : String}
    (plain : ∀ c ∈ name.toList, 0x20 ≤ c.toNat ∧ c ≠ '"' ∧ c ≠ '\\')
    : WritesKey name ('"' :: (name.toList ++ ['"', ':'])) :=
  ⟨[], name.toList, [], [], blank_nil, spells_self plain, blank_nil, blank_nil, rfl⟩

/-- A severity as an object, a member that is no setting, and a key in escapes. -/
def strictMembers : List SectionMember :=
  [.severity .error, .other "x" (by decide), .enabled false]

def strictRun : String :=
  "\"severity\":\x7b\"error\":null\x7d, \"x\":[\"\\ud800\",-1.5e3],\"\\u0065nabled\":false"

/-- A lone surrogate and a number with all its parts. -/
theorem oddities_isValue : IsValue "[\"\\ud800\",-1.5e3]".toList := by
  have surrogate : Hex ['d', '8', '0', '0'] 0xD800 :=
    @Hex.digits 'd' '8' '0' '0' 13 8 0 0 rfl rfl rfl rfl
  have digit : ∀ c, isDigit c → Digits [c] := fun c digit => ⟨by simp, by simpa using digit⟩
  have number : Magnitude ['1', '.', '5', 'e', '3'] :=
    ⟨['1'], ['.', '5'], ['e', '3'], Or.inr ⟨digit '1' (by decide), by decide⟩,
      Or.inr ⟨['5'], digit '5' (by decide), rfl⟩,
      Or.inr ⟨'e', [], ['3'], by decide, by decide, digit '3' (by decide), rfl⟩, rfl⟩
  exact .array (.more blank_nil (.string (.number surrogate .nil)) blank_nil
    (.last blank_nil (.negative number) blank_nil))

theorem strict_writes : WritesRun SectionMember.Writes strictMembers strictRun.toList := by
  have severityKey : WritesKey "severity" "\"severity\":".toList := writesKey_self (by simp)
  have errorKey : WritesKey "error" "\"error\":".toList := writesKey_self (by simp)
  have otherKey : WritesKey "x" " \"x\":".toList :=
    ⟨[' '], ['x'], [], [], by simp [Blank, isBlank], spells_self (by simp), blank_nil, blank_nil,
      rfl⟩
  have enabledKey : WritesKey "enabled" "\"\\u0065nabled\":".toList := by
    have letter : Hex ['0', '0', '6', '5'] 'e'.toNat :=
      @Hex.digits '0' '0' '6' '5' 0 0 6 5 rfl rfl rfl rfl
    have behind : Spells "nabled".toList "nabled".toList := spells_self (by simp)
    have spells : Spells "enabled".toList "\\u0065nabled".toList := .number letter behind
    exact ⟨[], _, [], [], blank_nil, spells, blank_nil, blank_nil, rfl⟩
  have severity : SectionMember.Writes (.severity .error)
      "\"severity\":\x7b\"error\":null\x7d".toList :=
    ⟨_, _, severityKey, .wrapped errorKey blank_nil, rfl⟩
  have other : SectionMember.Writes (.other "x" (by decide)) " \"x\":[\"\\ud800\",-1.5e3]".toList :=
    ⟨_, _, otherKey, oddities_isValue, rfl⟩
  have enabled : SectionMember.Writes (.enabled false) "\"\\u0065nabled\":false".toList :=
    ⟨_, _, enabledKey, rfl, rfl⟩
  exact .more severity blank_nil (.more other blank_nil (.last enabled blank_nil))

/-- A section of these members is read; a further severity in it and a key behind it are refused.
-/
theorem strict_settings_read
    : GivenOnce strictMembers
      ∧ settingsOf strictMembers = ⟨false, .noTypeReference, .error, true⟩
      ∧ Settings.ofText ("\x7b\"propertyType\":\x7b" ++ strictRun ++ "\x7d\x7d")
        = .ok { propertyType := settingsOf strictMembers }
      ∧ Settings.ofText ("\x7b\"propertyType\":\x7b" ++ strictRun ++ ",\"severity\"")
        = .error (.invalid (.mismatch (.duplicateField "severity")))
      ∧ Settings.ofText ("\x7b\"propertyType\":\x7b" ++ strictRun ++ "\x7d,\"extra\"")
        = .error (.invalid (.mismatch (.unknownField "extra" [sectionKey]))) := by
  have once : GivenOnce strictMembers := by
    simp only [GivenOnce]
    decide
  have key : WritesKey sectionKey "\"propertyType\":".toList :=
    writesKey_self (by simp [sectionKey])
  have object : WritesObject SectionMember.Writes strictMembers
      ("\x7b".toList ++ strictRun.toList ++ "\x7d".toList) := .filled strict_writes
  have whole : WritesSection strictMembers
      ("\"propertyType\":\x7b".toList ++ strictRun.toList ++ "\x7d".toList) :=
    ⟨_, _, key, object, rfl⟩
  have run : WritesRun WritesSection [strictMembers]
      ("\"propertyType\":\x7b".toList ++ strictRun.toList ++ "\x7d".toList) := by
    have last := WritesRun.last whole blank_nil
    rwa [List.append_nil] at last
  have repeated : BeginsObject SectionMember.Writes strictMembers "severity"
      ("\x7b".toList ++ strictRun.toList ++ ",\"severity\"".toList) := by
    have spells : Spells "severity".toList "severity".toList := spells_self (by simp)
    exact .later strict_writes blank_nil spells
  have further : BeginsObject WritesSection [strictMembers] "extra"
      ("\x7b\"propertyType\":\x7b".toList ++ strictRun.toList ++ "\x7d,\"extra\"".toList) := by
    have spells : Spells "extra".toList "extra".toList := spells_self (by simp)
    exact .later run blank_nil spells
  obtain ⟨reads, duplicate, unknown⟩ := settings_depend_on_known_members once
  refine ⟨once, rfl, ?_, ?_, ?_⟩
  · rw [← reads [] _ [] blank_nil (.filled run) blank_nil]
    congr 1
  · rw [← duplicate [] _ _ _ blank_nil key repeated (by decide) (by decide)]
    congr 1
  · rw [← unknown [] _ _ _ blank_nil (Or.inr rfl) further (by decide)]
    congr 1

end PropertyLint
