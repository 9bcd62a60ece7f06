import DrawScript.Proofs.Grammar.Derivation
import DrawScript.Proofs.Grammar.Progress

set_option autoImplicit false

namespace DrawScript.Grammar

def Begins (property : Token → Prop) (tokens : List Token) : Prop :=
  ∃ first more, tokens = first :: more ∧ property first

theorem Begins.append {property : Token → Prop} {tokens : List Token}
    (begins : Begins property tokens) (others : List Token) :
    Begins property (tokens ++ others) := by
  obtain ⟨first, more, rfl, holds⟩ := begins
  exact ⟨first, more ++ others, rfl, holds⟩

def StartsOperand (token : Token) : Prop :=
  token.kind ≠ .keyword ∧ (token.kind = .delimiter → token.is .delimiter "(")

theorem StartsOperand.noDelimiter {token : Token} (starts : StartsOperand token) {text : String}
    (noOpening : text ≠ "(") : token.is .delimiter text = false := by
  cases same : token.is .delimiter text with
  | false => rfl
  | true =>
    have opens := starts.2 (Token.is_iff.mp same).1
    simp [Token.is_of_is same, noOpening] at opens

theorem StartsOperand.noKeyword {token : Token} (starts : StartsOperand token) (text : String) :
    token.is .keyword text = false := by
  simp [Token.is, starts.1]

theorem Identifier.begins {tokens : List Token} {name : String}
    (spelled : Identifier tokens name) : Begins StartsOperand tokens := by
  cases spelled with
  | name named => exact ⟨_, _, rfl, by simp [StartsOperand, named]⟩

theorem Operand.begins {room : Nat} {tokens : List Token} {e : Expr}
    (spelled : Operand room tokens e) : Begins StartsOperand tokens := by
  cases room with
  | zero => exact spelled.elim
  | succ room =>
    cases spelled with
    | @signed sign _ op _ isSign _ =>
      have kind := (Token.is_iff.mp isSign).1
      exact ⟨sign, _, rfl, by simp [StartsOperand, kind]⟩
    | @parenthesis opening _ _ _ opens _ _ =>
      have kind := (Token.is_iff.mp opens).1
      exact ⟨opening, _, rfl, by simp [StartsOperand, kind, opens]⟩
    | @call callee _ _ _ named _ =>
      have kind := (Token.is_iff.mp named).1
      exact ⟨callee, _, rfl, by simp [StartsOperand, kind]⟩
    | @identifier token _ named =>
      have kind := (Token.is_iff.mp named).1
      exact ⟨token, _, rfl, by simp [StartsOperand, kind]⟩
    | number | string | boolean => exact ⟨_, _, rfl, by simp [StartsOperand]⟩

theorem Chain.begins {ops : List BinaryOp} {operand : Spelling Expr} {property : Token → Prop}
    (operands : ∀ tokens e, operand tokens e → Begins property tokens) {tokens : List Token}
    {e : Expr} (spelled : Chain ops operand tokens e) : Begins property tokens := by
  induction spelled with
  | single only => exact operands _ _ only
  | join _ _ _ _ ih => exact ih.append _

theorem Tiered.begins {operand : Spelling Expr} {property : Token → Prop}
    (operands : ∀ tokens e, operand tokens e → Begins property tokens)
    (tiers : List (List BinaryOp)) {tokens : List Token} {e : Expr}
    (spelled : Tiered tiers operand tokens e) : Begins property tokens := by
  induction tiers generalizing operand with
  | nil => exact operands _ _ spelled
  | cons ops tiers ih => exact ih (fun _ _ => Chain.begins operands) spelled

theorem Expression.begins {room : Nat} {tokens : List Token} {e : Expr}
    (spelled : Expression room tokens e) : Begins StartsOperand tokens := by
  cases spelled with
  | value plain => exact Tiered.begins (fun _ _ => Operand.begins) tiers plain
  | assign target => exact (Tiered.begins (fun _ _ => Operand.begins) tiers target).append _

theorem BlockWithin.begins {room : Nat} {tokens : List Token} {b : Block Statement}
    (spelled : BlockWithin room tokens b) : Begins (·.is .delimiter "\x7b") tokens := by
  cases room with
  | zero => exact spelled.elim
  | succ room =>
    cases spelled with
    | @braces opening _ _ _ opens _ _ => exact ⟨opening, _, rfl, opens⟩

def StartsStatement (token : Token) : Prop :=
  ¬token.is .keyword "else" ∧ ¬token.is .delimiter "\x7d"

theorem StatementWithin.begins {room : Nat} {tokens : List Token} {s : Statement}
    (spelled : StatementWithin room tokens s) : Begins StartsStatement tokens := by
  have other {token : Token} {kind : Token.Kind} {text : String} (same : token.is kind text)
      (noElse : text ≠ "else") (noBrace : text ≠ "\x7d") : StartsStatement token := by
    simp [StartsStatement, Token.is_of_is same, noElse, noBrace]
  have identifier {token : Token} (named : token.kind = .identifier) : StartsStatement token := by
    simp [StartsStatement, Token.is, named]
  cases spelled with
  | @var tokens stop s declared =>
    cases declared with
    | @declare keyword _ _ _ _ _ _ isVar =>
      exact ⟨keyword, _, rfl, other isVar (by decide) (by decide)⟩
  | cursor isCursor => exact ⟨_, _, rfl, other isCursor (by decide) (by decide)⟩
  | ifElse chain =>
    cases chain with
    | plain isIf | otherwise isIf | elseIf isIf =>
      exact ⟨_, _, rfl, other isIf (by decide) (by decide)⟩
  | forLoop isFor => exact ⟨_, _, rfl, other isFor (by decide) (by decide)⟩
  | whileLoop isWhile => exact ⟨_, _, rfl, other isWhile (by decide) (by decide)⟩
  | doWhile isDo => exact ⟨_, _, rfl, other isDo (by decide) (by decide)⟩
  | function isFunction => exact ⟨_, _, rfl, other isFunction (by decide) (by decide)⟩
  | returnValue isReturn => exact ⟨_, _, rfl, other isReturn (by decide) (by decide)⟩
  | copy isCopy => exact ⟨_, _, rfl, other isCopy (by decide) (by decide)⟩
  | animate isAnimate => exact ⟨_, _, rfl, other isAnimate (by decide) (by decide)⟩
  | method isCursor => exact ⟨_, _, rfl, identifier isCursor⟩
  | block inner =>
    obtain ⟨opening, more, rfl, opens⟩ := inner.begins
    exact ⟨opening, more, rfl, other opens (by decide) (by decide)⟩
  | @expression first stop tokens e plain stops =>
    obtain ⟨_, _, ⟨⟩, starts⟩ := plain.begins
    exact ⟨first, _, rfl, by simp [starts.noKeyword], by simp [starts.noDelimiter]⟩
  | empty stops => exact ⟨_, _, rfl, other stops (by decide) (by decide)⟩

end DrawScript.Grammar
