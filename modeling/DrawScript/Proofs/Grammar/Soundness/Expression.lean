import DrawScript.Proofs.Grammar.Soundness.Basic

set_option autoImplicit false

namespace DrawScript.Grammar

variable {gaps : Prop}

theorem takeBinary_reads (ops : List BinaryOp) :
    Reads gaps (fun tokens found => match found with
      | some op => op ∈ ops ∧ ∃ line, Terminal .operator op.symbol tokens line
      | none => tokens = []) (takeBinary ops) := by
  refine Reads.get fun s => ?_
  cases front : s.rest with
  | nil => exact Reads.pure rfl s
  | cons token rest =>
    simp only [List.head?_cons, Option.bind_some]
    cases found : binaryOf? ops token with
    | none => exact Reads.pure rfl s
    | some op =>
      refine (advance_readsFrom front).bind fun _ _ _ _ => ?_
      apply ReadsFrom.stay
      rintro rfl
      obtain ⟨member, isSign⟩ := binaryOf?_eq_some.mp found
      exact ⟨member, token.line, token, rfl, isSign, rfl⟩

theorem takeUnary_reads :
    Reads gaps (fun tokens found => match found with
      | some op => ∃ line, Terminal .operator op.symbol tokens line
      | none => tokens = []) takeUnary := by
  refine Reads.get fun s => ?_
  cases front : s.rest with
  | nil => exact Reads.pure rfl s
  | cons token rest =>
    simp only [List.head?_cons, Option.bind_some]
    cases found : unaryOf? token with
    | none => exact Reads.pure rfl s
    | some op =>
      refine (advance_readsFrom front).bind fun _ _ _ _ => ?_
      apply ReadsFrom.stay
      rintro rfl
      exact ⟨token.line, token, rfl, unaryOf?_eq_some.mp found, rfl⟩

section

variable {spelling : Spelling Expr} {p : Parser Expr}

theorem chainFrom_reads (ops : List BinaryOp) (operand : Reads gaps spelling p) (bound : List Token)
    (left : Expr) :
    Reads gaps (fun tokens e => ∀ lefts, Chain ops spelling lefts left →
      Chain ops spelling (lefts ++ tokens) e) (chainFrom ops p bound left) := by
  -- The invariant is about all tokens that spell `left`: those taken continue them.
  induction bound generalizing left with
  | nil =>
    apply Reads.pure
    intro lefts before
    simpa using before
  | cons _ bound ih =>
    refine (takeBinary_reads ops).bind fun _ found => ?_
    cases found with
    | none =>
      apply Reads.pure
      rintro rfl lefts before
      simpa using before
    | some op =>
      refine operand.bind fun _ right => ?_
      refine (ih (.binary op left right)).mono ?_
      rintro later e continued last ⟨member, _, sign, rfl, isSign, rfl⟩ lefts before
      simpa using continued _ (.join before member isSign last)

theorem chain_reads (ops : List BinaryOp) (operand : Reads gaps spelling p) :
    Reads gaps (Chain ops spelling) (chain ops p) := by
  refine operand.bind fun _ left => ?_
  refine Reads.get fun s => ?_
  refine (chainFrom_reads ops operand s.rest left).mono ?_ s
  intro later e continued only
  exact continued _ (.single only)

theorem tiered_reads (tiers : List (List BinaryOp)) (operand : Reads gaps spelling p) :
    Reads gaps (Tiered tiers spelling) (tiers.foldl (fun tighter ops => chain ops tighter) p) := by
  induction tiers generalizing spelling p with
  | nil => exact operand
  | cons ops tiers ih => exact ih (chain_reads ops operand)

theorem disjunction_reads (operand : Reads gaps spelling p) :
    Reads gaps (Tiered tiers spelling) (disjunction p) :=
  tiered_reads tiers operand

theorem assignment_reads (operand : Reads gaps spelling p) (bound : List Token) :
    Reads gaps (Assignment spelling) (assignment p bound) := by
  induction bound with
  | nil => exact (disjunction_reads operand).mono fun _ _ => .value
  | cons _ bound ih =>
    refine (disjunction_reads operand).bind fun _ target => ?_
    refine Reads.currentLine fun _ => ?_
    refine (takes_reads _ _).bind fun _ taken => ?_
    cases taken with
    | false =>
      apply Reads.pure
      rintro rfl - plain
      simpa using Assignment.value plain
    | true =>
      refine ih.bind fun _ _ => ?_
      cases target with
      | identifier name =>
        apply Reads.pure
        rintro value ⟨_, sign, rfl, isSign, rfl⟩ - target
        simpa using Assignment.assign target isSign value
      | _ => exact Reads.fail

theorem expressionOf_reads (operand : Reads gaps spelling p) :
    Reads gaps (Assignment spelling) (expressionOf p) :=
  Reads.get fun s => assignment_reads operand s.rest s

end

theorem primary_reads {spelling inner : Spelling Expr} {p : Parser Expr}
    (expression : Reads gaps spelling p) : Reads gaps (OperandForm inner spelling) (primary p) := by
  refine Reads.get fun s => ?_
  cases front : s.rest with
  | nil => exact Reads.fail s
  | cons token rest =>
    obtain ⟨kind, value, line⟩ := token
    dsimp only
    split
    next n =>
      refine (advance_readsFrom front).bind fun _ _ _ _ => ?_
      apply ReadsFrom.stay
      rintro rfl
      exact .number
    next contents =>
      refine (advance_readsFrom front).bind fun _ _ _ _ => ?_
      apply ReadsFrom.stay
      rintro rfl
      exact .string
    next b =>
      refine (advance_readsFrom front).bind fun _ _ _ _ => ?_
      apply ReadsFrom.stay
      rintro rfl
      exact .boolean
    next text =>
      split
      next parenthesis =>
        subst parenthesis
        refine (advance_readsFrom front).bind fun _ _ t _ => ?_
        refine (expression.bind fun _ _ => ?_) t
        refine (expect_reads _ _).bind fun _ _ => ?_
        apply Reads.pure
        rintro ⟨closing, rfl, closes, rfl⟩ inner rfl
        simpa using OperandForm.parenthesis (by simp [Token.is]) inner closes
      next => exact Reads.fail s
    next name =>
      refine (advance_readsFrom front).bind fun _ _ t _ => ?_
      refine ((sees_reads _ _).bind fun _ seen => ?_) t
      have named : Token.is ⟨.identifier, .lexeme name, line⟩ .identifier name := by
        simp [Token.is]
      cases seen with
      | true =>
        refine (parenthesized_reads expression).bind fun _ _ => ?_
        apply Reads.pure
        rintro items rfl rfl
        simpa using OperandForm.call named items
      | false =>
        apply Reads.pure
        rintro rfl rfl
        exact .identifier named
    next => exact Reads.fail s

theorem operand_reads (room : Nat) : Reads gaps (Operand room) (operand room) := by
  induction room with
  | zero => exact Reads.currentLine fun _ => Reads.fail
  | succ room ih =>
    refine takeUnary_reads.bind fun _ found => ?_
    cases found with
    | none =>
      have form : Reads gaps (Operand (room + 1)) (primary (expressionOf (operand room))) :=
        primary_reads (expressionOf_reads ih)
      refine form.mono ?_
      rintro tokens e spelled rfl
      exact spelled
    | some op =>
      refine ih.bind fun _ _ => ?_
      apply Reads.pure
      rintro inner ⟨_, sign, rfl, isSign, rfl⟩
      simpa [Operand] using OperandForm.signed isSign inner

theorem expression_reads (room : Nat) : Reads gaps (Expression room) (expression room) :=
  expressionOf_reads (operand_reads room)

end DrawScript.Grammar
