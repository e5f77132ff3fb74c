import PropertyLint.Proofs.TypeExpr.Nesting
import PropertyLint.TypeExpr.Token

/-! The grammar of type expressions over tokens, one relation for each of its rules.

    type      := qualified type_args? '?'?
    qualified := identifier ('.' identifier)*
    type_args := '<' argument (',' argument)* '>'
    argument  := '*' | type

A token sequence derives at most one expression: what may follow an expression never continues it.
-/

namespace PropertyLint.TypeGrammar

/-- `identifier ('.' identifier)*` -/
inductive Qualified : List Token → List String → Prop
  | single {token} (word : token.kind = .identifier) : Qualified [token] [token.text]
  | dotted {token dot tokens name} (word : token.kind = .identifier) (point : dot.kind = .dot)
    (rest : Qualified tokens name)
    : Qualified (token :: dot :: tokens) (token.text :: name)

/-- `'?'?` -/
inductive Marked : List Token → Bool → Prop
  | absent : Marked [] false
  | present {token} (question : token.kind = .question) : Marked [token] true

mutual

/-- `qualified type_args? '?'?` -/
inductive IsType : List Token → TypeExpr → Prop
  | named {head args mark name arguments nullable} (qualified : Qualified head name)
    (applied : TypeArgs args arguments) (marked : Marked mark nullable)
    : IsType (head ++ (args ++ mark)) (.named name arguments nullable)

/-- `type_args?` -/
inductive TypeArgs : List Token → List TypeExpr → Prop
  | absent : TypeArgs [] []
  | present {opening tokens closing arguments} (less : opening.kind = .less)
    (listed : Arguments tokens arguments) (greater : closing.kind = .greater)
    : TypeArgs (opening :: (tokens ++ [closing])) arguments

/-- `argument (',' argument)*` -/
inductive Arguments : List Token → List TypeExpr → Prop
  | last {tokens expr} (argument : Argument tokens expr) : Arguments tokens [expr]
  | more {first comma tokens expr rest} (argument : Argument first expr)
    (separator : comma.kind = .comma) (listed : Arguments tokens rest)
    : Arguments (first ++ comma :: tokens) (expr :: rest)

/-- `'*' | type` -/
inductive Argument : List Token → TypeExpr → Prop
  | star {token} (asterisk : token.kind = .asterisk) : Argument [token] .star
  | type {tokens expr} (type : IsType tokens expr) : Argument tokens expr

end

variable {tokens left right leftRest rightRest : List Token} {expr other : TypeExpr}
  {exprs others : List TypeExpr} {kinds wider : List TokenKind}

theorem Arguments.ne_nil (listed : Arguments tokens exprs) : exprs ≠ [] := by
  cases listed <;> simp

/-- A type starts with a name. -/
theorem IsType.starts (type : IsType tokens expr)
    : ∃ token rest, tokens = token :: rest ∧ token.kind = .identifier := by
  cases type with
  | named qualified _ _ =>
      cases qualified with
      | single word => exact ⟨_, _, rfl, word⟩
      | dotted word _ _ => exact ⟨_, _, rfl, word⟩

-----------------------------------------------------------------------------------------
-- What follows an expression never continues it
-----------------------------------------------------------------------------------------

/-- No token of the given kinds comes first. -/
def Avoids (kinds : List TokenKind) (rest : List Token) : Prop :=
  ∀ token ∈ rest.head?, token.kind ∉ kinds

theorem avoids_nil : Avoids kinds [] := by
  simp [Avoids]

theorem avoids_cons {token : Token} {rest : List Token} (other : token.kind ∉ kinds)
    : Avoids kinds (token :: rest) := by
  simpa [Avoids] using other

theorem Avoids.absurd {token : Token} {rest : List Token} {goal : Prop}
    (avoids : Avoids kinds (token :: rest)) (member : token.kind ∈ kinds)
    : goal :=
  (avoids token (by simp) member).elim

theorem Avoids.mono {rest : List Token} (avoids : Avoids wider rest) (subset : kinds ⊆ wider)
    : Avoids kinds rest :=
  fun token first member => avoids token first (subset member)

theorem Marked.avoids {mark rest : List Token} {nullable : Bool} (marked : Marked mark nullable)
    (other : .question ∉ kinds) (avoids : Avoids kinds rest)
    : Avoids kinds (mark ++ rest) := by
  cases marked with
  | absent => exact avoids
  | present question => exact avoids_cons (question ▸ other)

theorem TypeArgs.avoids {args rest : List Token} (applied : TypeArgs args exprs)
    (other : .less ∉ kinds) (avoids : Avoids kinds rest)
    : Avoids kinds (args ++ rest) := by
  cases applied with
  | absent => exact avoids
  | present less _ _ => exact avoids_cons (less ▸ other)

-----------------------------------------------------------------------------------------
-- Two derivations of the same tokens agree
-----------------------------------------------------------------------------------------

/-- A name ends where no dot follows, by induction on its segments. -/
theorem Qualified.unique {name otherName : List String} (first : Qualified left name)
    (second : Qualified right otherName) (same : left ++ leftRest = right ++ rightRest)
    (leftEnd : Avoids [.dot] leftRest) (rightEnd : Avoids [.dot] rightRest)
    : name = otherName ∧ leftRest = rightRest := by
  induction first generalizing right otherName with
  | single word =>
      cases second with
      | single _ =>
          obtain ⟨rfl, rest⟩ := List.cons_eq_cons.mp same
          exact ⟨rfl, rest⟩
      | dotted _ point _ =>
          obtain ⟨_, rfl⟩ := List.cons_eq_cons.mp same
          exact leftEnd.absurd (by simp [point])
  | dotted word point _ ih =>
      cases second with
      | single _ =>
          obtain ⟨_, rfl⟩ := List.cons_eq_cons.mp same
          exact rightEnd.absurd (by simp [point])
      | dotted _ _ rest =>
          simp only [List.cons_append, List.cons.injEq] at same
          obtain ⟨rfl, _, same⟩ := same
          obtain ⟨rfl, rests⟩ := ih rest same
          exact ⟨rfl, rests⟩

theorem Marked.unique {nullable otherNullable : Bool} (first : Marked left nullable)
    (second : Marked right otherNullable) (same : left ++ leftRest = right ++ rightRest)
    (leftEnd : Avoids [.question] leftRest) (rightEnd : Avoids [.question] rightRest)
    : nullable = otherNullable ∧ leftRest = rightRest := by
  cases first with
  | absent =>
      cases second with
      | absent => exact ⟨rfl, same⟩
      | present question =>
          obtain rfl : leftRest = _ := same
          exact leftEnd.absurd (by simp [question])
  | present question =>
      cases second with
      | absent =>
          obtain rfl : _ = rightRest := same
          exact rightEnd.absurd (by simp [question])
      | present _ => exact ⟨rfl, (List.cons_eq_cons.mp same).2⟩

mutual

/-- Types that start the same text and are not continued there are the same, by recursion on the
first one.
-/
theorem IsType.unique {left right leftRest rightRest : List Token} {expr other : TypeExpr}
    (first : IsType left expr) (second : IsType right other)
    (same : left ++ leftRest = right ++ rightRest)
    (leftEnd : Avoids [.dot, .less, .question] leftRest)
    (rightEnd : Avoids [.dot, .less, .question] rightRest)
    : expr = other ∧ leftRest = rightRest := by
  cases first with
  | named qualified applied marked =>
      cases second with
      | named otherQualified otherApplied otherMarked =>
          simp only [List.append_assoc] at same
          obtain ⟨rfl, same⟩ := qualified.unique otherQualified same
            (applied.avoids (by simp) (marked.avoids (by simp) (leftEnd.mono (by simp))))
            (otherApplied.avoids (by simp) (otherMarked.avoids (by simp) (rightEnd.mono (by simp))))
          obtain ⟨rfl, same⟩ := applied.unique otherApplied same
            (marked.avoids (by simp) (leftEnd.mono (by simp)))
            (otherMarked.avoids (by simp) (rightEnd.mono (by simp)))
          obtain ⟨rfl, rests⟩ := marked.unique otherMarked same (leftEnd.mono (by simp))
            (rightEnd.mono (by simp))
          exact ⟨rfl, rests⟩
termination_by (sizeOf expr, 0)

theorem TypeArgs.unique {left right leftRest rightRest : List Token}
    {exprs others : List TypeExpr} (first : TypeArgs left exprs) (second : TypeArgs right others)
    (same : left ++ leftRest = right ++ rightRest) (leftEnd : Avoids [.less] leftRest)
    (rightEnd : Avoids [.less] rightRest)
    : exprs = others ∧ leftRest = rightRest := by
  cases first with
  | absent =>
      cases second with
      | absent => exact ⟨rfl, same⟩
      | present less _ _ =>
          obtain rfl : leftRest = _ := same
          exact leftEnd.absurd (by simp [less])
  | present less listed greater =>
      cases second with
      | absent =>
          obtain rfl : _ = rightRest := same
          exact rightEnd.absurd (by simp [less])
      | present _ otherListed otherGreater =>
          simp only [List.cons_append, List.append_assoc, List.cons.injEq] at same
          obtain ⟨rfl, same⟩ := listed.unique otherListed same.2
            (avoids_cons (by simp [greater])) (avoids_cons (by simp [otherGreater]))
          exact ⟨rfl, (List.cons_eq_cons.mp same).2⟩
termination_by (sizeOf exprs, 1)

theorem Arguments.unique {left right leftRest rightRest : List Token}
    {exprs others : List TypeExpr} (first : Arguments left exprs) (second : Arguments right others)
    (same : left ++ leftRest = right ++ rightRest)
    (leftEnd : Avoids [.dot, .less, .question, .comma] leftRest)
    (rightEnd : Avoids [.dot, .less, .question, .comma] rightRest)
    : exprs = others ∧ leftRest = rightRest := by
  cases first with
  | last argument =>
      cases second with
      | last otherArgument =>
          obtain ⟨rfl, rests⟩ := argument.unique otherArgument same (leftEnd.mono (by simp))
            (rightEnd.mono (by simp))
          exact ⟨rfl, rests⟩
      | more otherArgument separator _ =>
          simp only [List.append_assoc, List.cons_append] at same
          obtain ⟨_, rfl⟩ := argument.unique otherArgument same (leftEnd.mono (by simp))
            (avoids_cons (by simp [separator]))
          exact leftEnd.absurd (by simp [separator])
  | more argument separator listed =>
      simp only [List.append_assoc, List.cons_append] at same
      cases second with
      | last otherArgument =>
          obtain ⟨_, rfl⟩ := argument.unique otherArgument same (avoids_cons (by simp [separator]))
            (rightEnd.mono (by simp))
          exact rightEnd.absurd (by simp [separator])
      | more otherArgument otherSeparator otherListed =>
          simp only [List.append_assoc, List.cons_append] at same
          obtain ⟨rfl, same⟩ := argument.unique otherArgument same
            (avoids_cons (by simp [separator])) (avoids_cons (by simp [otherSeparator]))
          obtain ⟨rfl, rests⟩ := listed.unique otherListed (List.cons_eq_cons.mp same).2 leftEnd
            rightEnd
          exact ⟨rfl, rests⟩
termination_by (sizeOf exprs, 0)

theorem Argument.unique {left right leftRest rightRest : List Token} {expr other : TypeExpr}
    (first : Argument left expr) (second : Argument right other)
    (same : left ++ leftRest = right ++ rightRest)
    (leftEnd : Avoids [.dot, .less, .question] leftRest)
    (rightEnd : Avoids [.dot, .less, .question] rightRest)
    : expr = other ∧ leftRest = rightRest := by
  cases first with
  | star asterisk =>
      cases second with
      | star _ => exact ⟨rfl, (List.cons_eq_cons.mp same).2⟩
      | type type =>
          obtain ⟨token, rest, rfl, word⟩ := type.starts
          obtain ⟨rfl, _⟩ := List.cons_eq_cons.mp same
          rw [asterisk] at word
          cases word
  | type type =>
      cases second with
      | star asterisk =>
          obtain ⟨token, rest, rfl, word⟩ := type.starts
          obtain ⟨rfl, _⟩ := List.cons_eq_cons.mp same
          rw [asterisk] at word
          cases word
      | type otherType => exact type.unique otherType same leftEnd rightEnd
termination_by (sizeOf expr, 1)

end

/-- A whole token sequence derives at most one type. -/
theorem IsType.unique_whole (first : IsType tokens expr) (second : IsType tokens other)
    : expr = other := by
  have same : tokens ++ [] = tokens ++ [] := rfl
  exact (first.unique second same avoids_nil avoids_nil).1

end PropertyLint.TypeGrammar
