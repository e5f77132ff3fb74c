import PropertyLint.Proofs.TypeExpr.Grammar
import PropertyLint.TypeExpr.Parser

/-! The parser accepts exactly the grammar.
What the parser has read is always a prefix of a derivation, of which its stack holds the open
lists and its stage the rest. Conversely a derivation leads the parser from the start of a type to
its end, and no limit stops it on the way.
-/

namespace PropertyLint

open TypeGrammar TypeExpr

namespace TypeParser

/-- The parser takes the tokens one by one. -/
inductive Takes : TypeParser → List Token → TypeParser → Prop
  | nil {parser} : Takes parser [] parser
  | cons {parser token between tokens last} (taken : parser.step token = .ok between)
    (rest : Takes between tokens last)
    : Takes parser (token :: tokens) last

/-- The arguments of an open list that end in their commas. -/
inductive Listed : List Token → List TypeExpr → Prop
  | nil : Listed [] []
  | snoc {tokens last comma arguments expr} (earlier : Listed tokens arguments)
    (argument : Argument last expr) (separator : comma.kind = .comma)
    : Listed (tokens ++ (last ++ [comma])) (arguments ++ [expr])

/-- The tokens that have been read inside the open lists, up to where the present type starts. -/
inductive Opened : List Token → List Frame → Prop
  | outside : Opened [] []
  | inside {before head opening list name arguments frames} (outer : Opened before frames)
    (qualified : Qualified head name) (less : opening.kind = .less) (listed : Listed list arguments)
    (fits : frames.length + 1 + nestingAll arguments ≤ maxTypeNesting)
    : Opened (before ++ (head ++ opening :: list)) (⟨name, arguments⟩ :: frames)

/-- The tokens that have been read of the present type. -/
def Staged (frames : List Frame) (tokens : List Token) : Stage → Prop
  | .start => tokens = []
  | .dotted name =>
    ∃ head dot, tokens = head ++ [dot] ∧ Qualified head name ∧ dot.kind = .dot
  | .named name => Qualified tokens name
  | .applied name arguments =>
    ∃ head args,
      tokens = head ++ args
      ∧ Qualified head name
      ∧ TypeArgs args arguments
      ∧ frames.length + 1 + nestingAll arguments ≤ maxTypeNesting
  | .complete expr =>
    Argument tokens expr
    ∧ (frames = [] → IsType tokens expr)
    ∧ frames.length + expr.nesting ≤ maxTypeNesting

/-- No name among the tokens is a keyword. -/
def Unreserved (tokens : List Token) : Prop :=
  ∀ token ∈ tokens, token.kind = .identifier → token.text ∉ reservedNames

/-- The stack and the stage of the parser share what has been read between them. -/
def Placed (tokens : List Token) (parser : TypeParser) : Prop :=
  ∃ before present,
    tokens = before ++ present
    ∧ Opened before parser.frames
    ∧ Staged parser.frames present parser.stage

/-- The parser has read the tokens. -/
structure Reads (tokens : List Token) (parser : TypeParser) : Prop where
  placed : Placed tokens parser
  unreserved : Unreserved tokens

variable {parser next : TypeParser} {token : Token} {tokens later : List Token} {expr : TypeExpr}
  {frames : List Frame} {stage : Stage}

-----------------------------------------------------------------------------------------
-- A run succeeds when every token is taken
-----------------------------------------------------------------------------------------

theorem Takes.append {between last : TypeParser} (first : Takes parser tokens between)
    (second : Takes between later last)
    : Takes parser (tokens ++ later) last := by
  induction first with
  | nil => exact second
  | cons taken _ ih => exact .cons taken (ih second)

theorem Takes.single (taken : parser.step token = .ok next) : Takes parser [token] next :=
  .cons taken .nil

/-- A run succeeds when the parser takes all tokens and the type may end there. -/
theorem run_eq_ok_iff {offset : Nat}
    : parser.run offset tokens = .ok expr
      ↔ ∃ last, Takes parser tokens last ∧ last.finish offset = .ok expr := by
  induction tokens generalizing parser with
  | nil =>
      constructor
      · intro finished
        exact ⟨parser, .nil, finished⟩
      · intro given
        rcases given with ⟨last, takes, finished⟩
        cases takes
        exact finished
  | cons token tokens ih =>
      unfold run
      cases taken : parser.step token with
      | error error =>
          constructor
          · intro failed
            cases failed
          · intro given
            rcases given with ⟨last, takes, _⟩
            cases takes with
            | cons again _ =>
                rw [taken] at again
                cases again
      | ok between =>
          dsimp only
          rw [ih]
          constructor
          · intro given
            rcases given with ⟨last, takes, finished⟩
            exact ⟨last, .cons taken takes, finished⟩
          · intro given
            rcases given with ⟨last, takes, finished⟩
            cases takes with
            | cons again rest =>
                rw [taken] at again
                exact ⟨last, Except.ok.inj again ▸ rest, finished⟩

theorem finish_eq_ok_iff {offset : Nat}
    : parser.finish offset = .ok expr ↔ parser.stage.expr? = some expr ∧ parser.frames = [] := by
  unfold finish
  cases parser.stage.expr? <;> cases parser.frames <;> simp

-----------------------------------------------------------------------------------------
-- What has been read is a prefix of a derivation
-----------------------------------------------------------------------------------------

theorem Opened.length_le (opened : Opened tokens frames) : frames.length ≤ maxTypeNesting := by
  cases opened with
  | outside => exact Nat.zero_le _
  | inside _ _ _ _ fits =>
      simp only [List.length_cons]
      omega

/-- An open list that is closed behind another argument is an argument list. -/
theorem Listed.arguments {list : List Token} {arguments rest : List TypeExpr}
    (listed : Listed list arguments) (last : Arguments tokens rest)
    : Arguments (list ++ tokens) (arguments ++ rest) := by
  induction listed generalizing tokens rest with
  | nil => exact last
  | snoc _ argument separator ih =>
      have next := ih (.more argument separator last)
      simpa using next

theorem qualified_snoc {name : List String} {dot : Token} (qualified : Qualified tokens name)
    (point : dot.kind = .dot) (word : token.kind = .identifier)
    : Qualified (tokens ++ [dot] ++ [token]) (name ++ [token.text]) := by
  induction qualified with
  | single first => exact .dotted first point (.single word)
  | dotted first other _ ih => exact .dotted first other ih

/-- The type just read is complete where it may end. -/
theorem Staged.complete (staged : Staged frames tokens stage)
    (fits : frames.length ≤ maxTypeNesting) (ended : stage.expr? = some expr)
    : Staged frames tokens (.complete expr) := by
  cases stage with
  | start | dotted _ => cases ended
  | complete present => exact Option.some.inj ended ▸ staged
  | named name =>
      obtain rfl := Option.some.inj ended
      have type : IsType (tokens ++ ([] ++ [])) (.named name [] false) :=
        .named staged .absent .absent
      simp only [List.append_nil] at type
      exact ⟨.type type, fun _ => type, fits⟩
  | applied name arguments =>
      obtain rfl := Option.some.inj ended
      obtain ⟨head, args, rfl, qualified, applied, bound⟩ := staged
      have type : IsType (head ++ (args ++ [])) (.named name arguments false) :=
        .named qualified applied .absent
      simp only [List.append_nil] at type
      have nesting := nesting_named_le name arguments false
      exact ⟨.type type, fun _ => type, by omega⟩

-----------------------------------------------------------------------------------------
-- Every step reads one more token
-----------------------------------------------------------------------------------------

theorem nestingAll_append (first second : List TypeExpr)
    : nestingAll (first ++ second) = max (nestingAll first) (nestingAll second) := by
  induction first with
  | nil => simp [nestingAll]
  | cons expr rest ih => simp [nestingAll, ih, Nat.max_assoc]

variable {before present : List Token}

/-- A segment extends the name before it. -/
theorem takeSegment_placed (present : List Token) (name : List String)
    (opened : Opened before frames)
    (read : ∀ word, word.kind = .identifier → Qualified (present ++ [word]) (name ++ [word.text]))
    (taken : takeSegment frames name token = .ok next)
    : Placed (before ++ present ++ [token]) next ∧ token.text ∉ reservedNames := by
  unfold takeSegment at taken
  split at taken
  · cases taken
  · rename_i word
    split at taken
    · cases taken
    · rename_i free
      obtain rfl := Except.ok.inj taken
      have kind : token.kind = .identifier := Classical.not_not.mp word
      exact ⟨⟨before, present ++ [token], by simp, opened, read token kind⟩, free⟩

/-- Behind a complete argument its list goes on or is closed. -/
theorem takeAfter_placed (opened : Opened before frames)
    (staged : Staged frames present (.complete expr))
    (taken : takeAfter frames expr token = .ok next)
    : Placed (before ++ present ++ [token]) next ∧ token.kind ≠ .identifier := by
  obtain ⟨argument, _, nesting⟩ := staged
  cases opened with
  | outside => cases taken
  | @inside outer head opening list name arguments frames opened qualified less listed fits =>
      have bound : frames.length + 1 + nestingAll (arguments ++ [expr]) ≤ maxTypeNesting := by
        simp only [List.length_cons] at nesting
        simp only [nestingAll_append, nestingAll]
        omega
      unfold takeAfter at taken
      dsimp only at taken
      split at taken
      · rename_i comma
        obtain rfl := Except.ok.inj taken
        refine ⟨⟨_, [], ?_, .inside opened qualified less (listed.snoc argument comma) bound, rfl⟩,
          by simp [comma]⟩
        simp
      · rename_i greater
        obtain rfl := Except.ok.inj taken
        refine ⟨⟨outer, _, ?_, opened, head, _, rfl, qualified,
          .present less (listed.arguments (.last argument)) greater, bound⟩, by simp [greater]⟩
        simp
      · cases taken

/-- One step reads one more token, which is no keyword where a name stands. -/
theorem step_placed (placed : Placed tokens parser) (taken : parser.step token = .ok next)
    : Placed (tokens ++ [token]) next
      ∧ (token.kind = .identifier → token.text ∉ reservedNames) := by
  obtain ⟨before, present, rfl, opened, staged⟩ := placed
  obtain ⟨stage, frames⟩ := parser
  have fits := opened.length_le
  have after {expr : TypeExpr} (ended : stage.expr? = some expr)
      (taken : takeAfter frames expr token = .ok next)
      : Placed (before ++ present ++ [token]) next
        ∧ (token.kind = .identifier → token.text ∉ reservedNames) := by
    have read := takeAfter_placed opened (staged.complete fits ended) taken
    exact ⟨read.1, fun word => absurd word read.2⟩
  unfold step at taken
  dsimp only at taken opened staged
  split at taken
  · rename_i asterisk
    obtain rfl : present = [] := staged
    split at taken
    · have read := takeSegment_placed [] [] opened (fun _ word => .single word) taken
      exact ⟨read.1, fun _ => read.2⟩
    · rename_i inside
      obtain rfl := Except.ok.inj taken
      refine ⟨⟨before, [token], by simp, opened, .star asterisk, ?_, fits⟩, by simp [asterisk]⟩
      exact fun outside => absurd outside (by simpa using inside)
  · obtain rfl : present = [] := staged
    have read := takeSegment_placed [] [] opened (fun _ word => .single word) taken
    exact ⟨read.1, fun _ => read.2⟩
  · rename_i name
    obtain ⟨head, dot, rfl, qualified, point⟩ := staged
    have read := takeSegment_placed (head ++ [dot]) name opened
      (fun _ word => qualified_snoc qualified point word) taken
    exact ⟨read.1, fun _ => read.2⟩
  · rename_i name point
    obtain rfl := Except.ok.inj taken
    exact ⟨⟨before, present ++ [token], by simp, opened, present, token, rfl, staged, point⟩,
      by simp [point]⟩
  · rename_i name less
    split at taken
    · cases taken
    · rename_i room
      obtain rfl := Except.ok.inj taken
      refine ⟨⟨_, [], ?_, .inside opened staged less .nil ?_, rfl⟩, by simp [less]⟩
      · simp
      · simp only [nestingAll]
        omega
  · rename_i name question
    obtain rfl := Except.ok.inj taken
    have type : IsType (present ++ ([] ++ [token])) (.named name [] true) :=
      .named staged .absent (.present question)
    exact ⟨⟨before, present ++ [token], by simp, opened, .type type, fun _ => type, fits⟩,
      by simp [question]⟩
  · exact after rfl taken
  · rename_i name arguments question
    obtain rfl := Except.ok.inj taken
    obtain ⟨head, args, rfl, qualified, applied, bound⟩ := staged
    have type : IsType (head ++ (args ++ [token])) (.named name arguments true) :=
      .named qualified applied (.present question)
    have nesting := nesting_named_le name arguments true
    refine ⟨⟨before, head ++ (args ++ [token]), by simp, opened, .type type, fun _ => type, ?_⟩,
      by simp [question]⟩
    dsimp only
    omega
  · exact after rfl taken
  · exact after rfl taken

/-- All that the parser takes is read, by induction on its steps. -/
theorem Takes.reads {last : TypeParser} (takes : Takes parser later last)
    (reads : Reads tokens parser)
    : Reads (tokens ++ later) last := by
  induction takes generalizing tokens with
  | nil => simpa using reads
  | @cons parser token between rest last taken _ ih =>
      obtain ⟨placed, free⟩ := step_placed reads.placed taken
      have unreserved : Unreserved (tokens ++ [token]) := by
        intro other member word
        rcases List.mem_append.mp member with earlier | last
        · exact reads.unreserved other earlier word
        · obtain rfl := List.mem_singleton.mp last
          exact free word
      have next := ih ⟨placed, unreserved⟩
      rwa [List.append_assoc] at next

theorem reads_initial : Reads [] initial where
  placed := ⟨[], [], rfl, .outside, rfl⟩
  unreserved := by simp [Unreserved]

/-- What the parser accepts is derived by the grammar, within the limits. -/
theorem Takes.derives {last : TypeParser} (takes : Takes initial tokens last)
    (ended : last.stage.expr? = some expr) (closed : last.frames = [])
    : IsType tokens expr ∧ Unreserved tokens ∧ expr.nesting ≤ maxTypeNesting := by
  have reads := takes.reads reads_initial
  obtain ⟨before, present, split, opened, staged⟩ := reads.placed
  rw [closed] at opened staged
  obtain ⟨_, type, nesting⟩ := staged.complete (Nat.zero_le _) ended
  cases opened with
  | outside =>
      obtain rfl : tokens = present := split
      exact ⟨type rfl, reads.unreserved, by simpa using nesting⟩

-----------------------------------------------------------------------------------------
-- Every derivation is followed
-----------------------------------------------------------------------------------------

theorem Unreserved.left (unreserved : Unreserved (tokens ++ later)) : Unreserved tokens :=
  fun token member => unreserved token (List.mem_append_left later member)

/-- A qualified name is taken wherever its first segment is, by induction on the segments. -/
theorem qualified_takes {name : List String} (qualified : Qualified tokens name)
    (unreserved : Unreserved tokens) (earlier : List String)
    (segment
      : ∀ token : Token,
          token.kind = .identifier
          → token.text ∉ reservedNames
          → step ⟨stage, frames⟩ token = .ok ⟨.named (earlier ++ [token.text]), frames⟩)
    : Takes ⟨stage, frames⟩ tokens ⟨.named (earlier ++ name), frames⟩ := by
  induction qualified generalizing stage earlier with
  | single word => exact .single (segment _ word (unreserved _ (by simp) word))
  | @dotted token dot tokens name word point _ ih =>
      have first := segment token word (unreserved token (by simp) word)
      have second : step ⟨.named (earlier ++ [token.text]), frames⟩ dot
          = .ok ⟨.dotted (earlier ++ [token.text]), frames⟩ := by
        simp [step, point]
      have rest : Takes ⟨.dotted (earlier ++ [token.text]), frames⟩ tokens
          ⟨.named (earlier ++ [token.text] ++ name), frames⟩ :=
        ih (fun other member => unreserved other (by simp [member])) (earlier ++ [token.text])
          fun other otherWord free => by simp [step, takeSegment, otherWord, free]
      rw [List.append_assoc] at rest
      exact .cons first (.cons second rest)

/-- A token that closes or goes on with a list is taken wherever an argument may end. -/
theorem step_ended (ended : stage.expr? = some expr)
    (kind : token.kind = .comma ∨ token.kind = .greater)
    : step ⟨stage, frames⟩ token = takeAfter frames expr token := by
  cases stage with
  | start | dotted _ => cases ended
  | named _ | applied _ _ | complete _ =>
      obtain rfl := Option.some.inj ended
      rcases kind with comma | greater
      · simp [step, comma]
      · simp [step, greater]

mutual

/-- A derivation leads the parser to a stage at which the type may end, by recursion on the type.
-/
theorem type_takes {tokens : List Token} {expr : TypeExpr} (frames : List Frame)
    (type : IsType tokens expr) (unreserved : Unreserved tokens)
    (fits : frames.length + expr.nesting ≤ maxTypeNesting)
    : ∃ stage, Takes ⟨.start, frames⟩ tokens ⟨stage, frames⟩ ∧ stage.expr? = some expr := by
  cases type with
  | @named head args mark name arguments nullable qualified applied marked =>
      have named : Takes ⟨.start, frames⟩ head ⟨.named name, frames⟩ :=
        qualified_takes qualified unreserved.left [] fun token word free => by
          simp [step, takeSegment, word, free]
      cases applied with
      | absent =>
          cases marked with
          | absent => exact ⟨.named name, by simpa using named, rfl⟩
          | present question =>
              exact ⟨.complete (.named name [] true),
                named.append (.single (by simp [step, question])), rfl⟩
      | @present opening list closing _ less listed greater =>
          rw [nesting_named listed.ne_nil] at fits
          have room : ¬ maxTypeNesting ≤ frames.length := by omega
          have opened : step ⟨.named name, frames⟩ opening
              = .ok ⟨.start, ⟨name, []⟩ :: frames⟩ := by
            simp [step, less, room]
          have closed := arguments_takes ⟨name, []⟩ frames listed greater
            (fun token member => unreserved token (by simp [member])) (by omega)
          have applied := named.append (.cons opened closed)
          cases marked with
          | absent => exact ⟨.applied name arguments, by simpa using applied, rfl⟩
          | @present mark question =>
              have marked : step ⟨.applied name arguments, frames⟩ mark
                  = .ok ⟨.complete (.named name arguments true), frames⟩ := by
                simp [step, question]
              exact ⟨.complete (.named name arguments true),
                by simpa using applied.append (.single marked), rfl⟩
termination_by (sizeOf expr, 0)

/-- A list is taken up to its end, where it is put behind its name. -/
theorem arguments_takes {tokens : List Token} {exprs : List TypeExpr} {closing : Token}
    (frame : Frame) (frames : List Frame) (listed : Arguments tokens exprs)
    (greater : closing.kind = .greater) (unreserved : Unreserved tokens)
    (fits : frames.length + 1 + nestingAll exprs ≤ maxTypeNesting)
    : Takes ⟨.start, frame :: frames⟩ (tokens ++ [closing])
        ⟨.applied frame.name (frame.arguments ++ exprs), frames⟩ := by
  cases listed with
  | @last _ expr argument =>
      simp only [nestingAll] at fits
      obtain ⟨stage, takes, ended⟩ :=
        argument_takes frame frames argument unreserved (by omega)
      refine takes.append (.single ?_)
      rw [step_ended ended (Or.inr greater)]
      simp [takeAfter, greater]
  | @more first comma rest expr exprs argument separator listed =>
      simp only [nestingAll] at fits
      obtain ⟨stage, takes, ended⟩ :=
        argument_takes frame frames argument unreserved.left (by omega)
      have between : step ⟨stage, frame :: frames⟩ comma
          = .ok ⟨.start, ⟨frame.name, frame.arguments ++ [expr]⟩ :: frames⟩ := by
        rw [step_ended ended (Or.inl separator)]
        simp [takeAfter, separator]
      have later := arguments_takes ⟨frame.name, frame.arguments ++ [expr]⟩ frames listed greater
        (fun other member => unreserved other (by simp [member])) (by omega)
      rw [List.append_assoc] at later ⊢
      exact takes.append (.cons between later)
termination_by (sizeOf exprs, 0)

theorem argument_takes {tokens : List Token} {expr : TypeExpr} (frame : Frame)
    (frames : List Frame) (argument : Argument tokens expr) (unreserved : Unreserved tokens)
    (fits : frames.length + 1 + expr.nesting ≤ maxTypeNesting)
    : ∃ stage,
        Takes ⟨.start, frame :: frames⟩ tokens ⟨stage, frame :: frames⟩
        ∧ stage.expr? = some expr := by
  cases argument with
  | star asterisk => exact ⟨.complete .star, .single (by simp [step, asterisk]), rfl⟩
  | type type => exact type_takes (frame :: frames) type unreserved fits
termination_by (sizeOf expr, 1)

end

end TypeParser

/-- A text is read as a type exactly when the grammar derives it from the tokens of the text, no
name is a keyword and the argument lists nest within the limit. The grammar derives no other type
from the tokens, whether or not the limits are kept.
-/
theorem parse_ok_iff (text : String) (expr : TypeExpr)
    : (TypeExpr.parse text = .ok expr
          ↔ IsType (Scanner.ofText text).tokens.1 expr
            ∧ (∀ token ∈ (Scanner.ofText text).tokens.1,
                token.kind = .identifier → token.text ∉ reservedNames)
            ∧ expr.nesting ≤ maxTypeNesting)
        ∧ ∀ other,
            IsType (Scanner.ofText text).tokens.1 expr
            → IsType (Scanner.ofText text).tokens.1 other
            → other = expr := by
  refine ⟨?_, fun other derived otherDerived => otherDerived.unique_whole derived⟩
  have parsed : TypeExpr.parse text
      = TypeParser.initial.run (Scanner.ofText text).tokens.2.offset
          (Scanner.ofText text).tokens.1 := rfl
  rw [parsed, TypeParser.run_eq_ok_iff]
  constructor
  · intro given
    rcases given with ⟨last, takes, finished⟩
    obtain ⟨ended, closed⟩ := TypeParser.finish_eq_ok_iff.mp finished
    exact takes.derives ended closed
  · intro given
    rcases given with ⟨type, unreserved, nesting⟩
    obtain ⟨stage, takes, ended⟩ :=
      TypeParser.type_takes [] type unreserved (by simpa using nesting)
    exact ⟨⟨stage, []⟩, takes, TypeParser.finish_eq_ok_iff.mpr ⟨ended, rfl⟩⟩

end PropertyLint
