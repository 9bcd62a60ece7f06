import DrawScript.Proofs.Grammar.FirstToken

set_option autoImplicit false

namespace DrawScript.Grammar

inductive Role where
  | opening
  | closing
  | joint
  | operand
  deriving DecidableEq, Repr

/-- What a token of an expression does to the nesting. Operators, `=` and commas join operands. -/
def role (token : Token) : Role :=
  if token.is .delimiter "(" then .opening
  else if token.is .delimiter ")" then .closing
  else if token.kind = .operator ∨ token.kind = .assign ∨ token.kind = .delimiter then .joint
  else .operand

theorem role_opening {token : Token} (opens : token.is .delimiter "(") : role token = .opening := by
  simp [role, opens]

theorem role_closing {token : Token} (closes : token.is .delimiter ")") :
    role token = .closing := by
  simp [role, Token.is_of_is closes]

theorem role_operator {token : Token} {text : String} (isSign : token.is .operator text) :
    role token = .joint := by
  simp [role, Token.is_of_is isSign, (Token.is_iff.mp isSign).1]

theorem role_assign {token : Token} {text : String} (isSign : token.is .assign text) :
    role token = .joint := by
  simp [role, Token.is_of_is isSign, (Token.is_iff.mp isSign).1]

theorem role_comma {token : Token} (isComma : token.is .delimiter ",") : role token = .joint := by
  simp [role, Token.is_of_is isComma, (Token.is_iff.mp isComma).1]

theorem role_identifier {token : Token} {text : String} (named : token.is .identifier text) :
    role token = .operand := by
  simp [role, Token.is_of_is named, (Token.is_iff.mp named).1]

structure Place where
  depth : Nat
  -- the depth in front of each parenthesis that is open
  outer : List Nat
  -- prefix operators in front of the next operand
  signs : Nat
  wantsOperand : Bool

namespace Place

def inside (p : Place) : Place := ⟨p.depth + p.signs + 1, p.depth :: p.outer, 0, true⟩

def signed (p : Place) : Place := { p with signs := p.signs + 1 }

def next (p : Place) (token : Token) : Place :=
  match role token with
  | .opening => p.inside
  | .closing => ⟨p.outer.headD 0, p.outer.tail, 0, false⟩
  -- the same operator stands before an operand or between two
  | .joint => if p.wantsOperand then p.signed else { p with signs := 0, wantsOperand := true }
  -- the signs stay for the arguments, should this be a callee
  | .operand => { p with wantsOperand := false }

def after (p : Place) (tokens : List Token) : Place := tokens.foldl next p

/-- The level of the deepest operand that is a single token. -/
def deepest (p : Place) : List Token → Nat
  | [] => 0
  | token :: tokens =>
      max (if role token = .operand then p.depth + p.signs + 1 else 0)
        ((p.next token).deepest tokens)

theorem deepest_append (p : Place) (tokens others : List Token) :
    p.deepest (tokens ++ others) = max (p.deepest tokens) ((p.after tokens).deepest others) := by
  induction tokens generalizing p with
  | nil => simp [deepest, after]
  | cons token tokens ih =>
    rw [List.cons_append, deepest, deepest, ih, Nat.max_assoc]
    rfl

theorem after_append (p : Place) (tokens others : List Token) :
    p.after (tokens ++ others) = (p.after tokens).after others :=
  List.foldl_append

theorem after_cons (p : Place) (token : Token) (tokens : List Token) :
    p.after (token :: tokens) = (p.next token).after tokens := rfl

structure Fresh (p : Place) : Prop where
  wants : p.wantsOperand = true
  unsigned : p.signs = 0

/-- The tokens close all that they open, and have no operand deeper than this. -/
structure Stays (p : Place) (room : Nat) (tokens : List Token) : Prop where
  back : ∃ signs, p.after tokens = { p with signs := signs, wantsOperand := false }
  bound : p.deepest tokens ≤ p.depth + p.signs + room

theorem inside_fresh (p : Place) : p.inside.Fresh := ⟨rfl, rfl⟩

variable {p : Place} {room : Nat} {token : Token} {tokens : List Token}

theorem next_opening (opens : token.is .delimiter "(") : p.next token = p.inside := by
  rw [next, role_opening opens]

theorem next_closing (closes : token.is .delimiter ")") {q : Place}
    (outer : q.outer = p.depth :: p.outer) :
    q.next token = { p with signs := 0, wantsOperand := false } := by
  rw [next, role_closing closes, outer]
  rfl

theorem next_sign (joint : role token = .joint) (wants : p.wantsOperand) :
    p.next token = p.signed := by
  simp [next, joint, wants]

theorem next_joint (joint : role token = .joint) (fresh : p.Fresh) (signs : Nat) :
    next { p with signs := signs, wantsOperand := false } token = p := by
  obtain ⟨wants, unsigned⟩ := fresh
  cases p
  simp_all [next]

theorem next_operand (operand : role token = .operand) :
    p.next token = { p with wantsOperand := false } := by
  rw [next, operand]

theorem deepest_operand (operand : role token = .operand) :
    p.deepest (token :: tokens) = max (p.depth + p.signs + 1) ((p.next token).deepest tokens) := by
  rw [deepest, if_pos operand]

theorem deepest_other (other : role token ≠ .operand) :
    p.deepest (token :: tokens) = (p.next token).deepest tokens := by
  rw [deepest, if_neg other, Nat.zero_max]

theorem deepest_bracketed {opening closing : Token} (opens : opening.is .delimiter "(")
    (closes : closing.is .delimiter ")") :
    p.deepest (opening :: tokens ++ [closing]) = p.inside.deepest tokens := by
  have last : role closing ≠ .operand := by simp [role_closing closes]
  have first : role opening ≠ .operand := by simp [role_opening opens]
  rw [List.cons_append, deepest_other first, next_opening opens, deepest_append,
    deepest_other last, deepest, Nat.max_zero]

namespace Stays

theorem operand (operand : role token = .operand) : p.Stays (room + 1) [token] := by
  constructor
  next => exact ⟨p.signs, next_operand operand⟩
  next =>
    rw [deepest_operand operand, deepest]
    omega

theorem signed (joint : role token = .joint) (wants : p.wantsOperand)
    (stays : p.signed.Stays room tokens) : p.Stays (room + 1) (token :: tokens) := by
  have step := next_sign joint wants
  constructor
  next =>
    rw [after_cons, step]
    exact stays.back
  next =>
    have bound : p.signed.deepest tokens ≤ p.depth + (p.signs + 1) + room := stays.bound
    rw [deepest_other (by simp [joint]), step]
    omega

theorem joined {lefts rights : List Token} (joint : role token = .joint) (fresh : p.Fresh)
    (before : p.Stays room lefts) (later : p.Stays room rights) :
    p.Stays room (lefts ++ token :: rights) := by
  -- After the left part the sign leads back to the place where it began.
  obtain ⟨signs, back⟩ := before.back
  have step : (p.after lefts).next token = p := by rw [back, next_joint joint fresh]
  constructor
  next =>
    rw [after_append, after_cons, step]
    exact later.back
  next =>
    rw [deepest_append, deepest_other (by simp [joint]), step]
    exact Nat.max_le.mpr ⟨before.bound, later.bound⟩

theorem bracketed {opening closing : Token} (opens : opening.is .delimiter "(")
    (closes : closing.is .delimiter ")")
    (back : (p.inside.after tokens).outer = p.depth :: p.outer)
    (bound : p.inside.deepest tokens ≤ p.inside.depth + room) :
    p.Stays (room + 1) (opening :: tokens ++ [closing]) := by
  constructor
  next =>
    rw [List.cons_append, after_cons, next_opening opens, after_append, after_cons,
      next_closing closes back]
    exact ⟨0, rfl⟩
  next =>
    have depth : p.inside.depth = p.depth + p.signs + 1 := rfl
    rw [deepest_bracketed opens closes]
    omega

theorem parenthesis {opening closing : Token} (opens : opening.is .delimiter "(")
    (closes : closing.is .delimiter ")") (stays : p.inside.Stays room tokens) :
    p.Stays (room + 1) (opening :: tokens ++ [closing]) := by
  obtain ⟨signs, back⟩ := stays.back
  apply bracketed opens closes
  next =>
    rw [back]
    rfl
  next => exact stays.bound

theorem call {callee : Token} {name : String} (named : callee.is .identifier name)
    (stays : ∀ q : Place, q.Stays (room + 1) tokens) : p.Stays (room + 1) (callee :: tokens) := by
  -- The callee lies at the level of the call; the parentheses behind it open no other one.
  have operand := role_identifier named
  obtain ⟨back, bound⟩ := stays { p with wantsOperand := false }
  constructor
  next =>
    rw [after_cons, next_operand operand]
    exact back
  next =>
    rw [deepest_operand operand, next_operand operand]
    have bound : deepest { p with wantsOperand := false } tokens ≤ p.depth + p.signs + (room + 1) :=
      bound
    omega

end Stays

end Place

def Joins (property : List Token → Prop) : Prop :=
  ∀ lefts sign rights, role sign = .joint → property lefts → property rights →
    property (lefts ++ sign :: rights)

section Joins

variable {property : List Token → Prop} (joins : Joins property) {item : Spelling Expr}
  (items : ∀ tokens e, item tokens e → property tokens)

include joins items

theorem Chain.joined {ops : List BinaryOp} {tokens : List Token} {e : Expr}
    (spelled : Chain ops item tokens e) : property tokens := by
  induction spelled with
  | single only => exact items _ _ only
  | join _ _ isSign last ih => exact joins _ _ _ (role_operator isSign) ih (items _ _ last)

theorem Tiered.joined (tiers : List (List BinaryOp)) {tokens : List Token} {e : Expr}
    (spelled : Tiered tiers item tokens e) : property tokens := by
  induction tiers generalizing item with
  | nil => exact items _ _ spelled
  | cons ops tiers ih => exact ih (fun _ _ => Chain.joined joins items) spelled

theorem Assignment.joined {tokens : List Token} {e : Expr} (spelled : Assignment item tokens e) :
    property tokens := by
  induction spelled with
  | value plain => exact Tiered.joined joins items tiers plain
  | assign target isSign _ ih =>
    exact joins _ _ _ (role_assign isSign) (Tiered.joined joins items tiers target) ih

theorem Separated.joined {tokens : List Token} {es : List Expr}
    (spelled : Separated item tokens es) : property tokens := by
  induction spelled with
  | one only => exact items _ _ only
  | more first isComma _ ih => exact joins _ _ _ (role_comma isComma) (items _ _ first) ih

end Joins

open Place

theorem joins_stays (room : Nat) : Joins fun tokens => ∀ p : Place, p.Fresh → p.Stays room tokens :=
  fun _ _ _ joint before later p fresh => (before p fresh).joined joint fresh (later p fresh)

theorem Operand.stays {room : Nat} {tokens : List Token} {e : Expr}
    (spelled : Operand room tokens e) {p : Place} (wants : p.wantsOperand) :
    p.Stays room tokens := by
  -- Induction on the room: a parenthesis, a sign or a call opens one level and leaves one less.
  induction room generalizing tokens e p with
  | zero => exact spelled.elim
  | succ room ih =>
    have inner {tokens : List Token} {e : Expr} (expression : Expression room tokens e) :
        ∀ p : Place, p.Fresh → p.Stays room tokens :=
      Assignment.joined (joins_stays room) (fun _ _ operand p fresh => ih operand fresh.wants)
        expression
    cases spelled with
    | signed isSign operand => exact Stays.signed (role_operator isSign) wants (ih operand wants)
    | parenthesis opens expression closes =>
      exact Stays.parenthesis opens closes (inner expression _ (inside_fresh p))
    | call named items =>
      apply Stays.call named
      intro q
      cases items with
      | none opens closes =>
        have nothing : q.inside.deepest [] ≤ q.inside.depth + room := Nat.zero_le _
        exact Stays.bracketed opens closes rfl nothing
      | some opens arguments closes =>
        have each := Separated.joined (joins_stays room) (fun _ _ => inner) arguments
        exact Stays.parenthesis opens closes (each _ (inside_fresh q))
    | identifier named => exact Stays.operand (role_identifier named)
    | number | string | boolean => exact Stays.operand rfl

theorem Expression.stays {room : Nat} {tokens : List Token} {e : Expr}
    (spelled : Expression room tokens e) {p : Place} (fresh : p.Fresh) : p.Stays room tokens :=
  Assignment.joined (joins_stays room) (fun _ _ operand _ fresh => operand.stays fresh.wants)
    spelled p fresh

def openAfter (count : Nat) (token : Token) : Option Nat :=
  match role token with
  | .opening => some (count + 1)
  | .closing => if count = 0 then none else some (count - 1)
  | .joint | .operand => some count

def Balanced (tokens : List Token) : Prop := ∀ count, tokens.foldlM openAfter count = some count

theorem Balanced.parenthesis {opening closing : Token} {tokens : List Token}
    (opens : opening.is .delimiter "(") (closes : closing.is .delimiter ")")
    (balanced : Balanced tokens) : Balanced (opening :: tokens ++ [closing]) := by
  intro count
  have first : openAfter count opening = some (count + 1) := by rw [openAfter, role_opening opens]
  have last : openAfter (count + 1) closing = some count := by simp [openAfter, role_closing closes]
  simp [first, last, balanced (count + 1)]

theorem Balanced.append {tokens others : List Token} (balanced : Balanced tokens)
    (later : Balanced others) : Balanced (tokens ++ others) := by
  intro count
  simp [balanced count, later count]

theorem Balanced.single {token : Token} (joint : role token = .joint ∨ role token = .operand) :
    Balanced [token] := by
  intro count
  rcases joint with found | found <;> simp [openAfter, found]

theorem joins_balanced : Joins Balanced := by
  intro lefts sign rights joint before later
  exact before.append ((Balanced.single (.inl joint)).append later)

theorem Operand.balanced {room : Nat} {tokens : List Token} {e : Expr}
    (spelled : Operand room tokens e) : Balanced tokens := by
  induction room generalizing tokens e with
  | zero => exact spelled.elim
  | succ room ih =>
    have inner {tokens : List Token} {e : Expr} (expression : Expression room tokens e) :
        Balanced tokens :=
      Assignment.joined joins_balanced (fun _ _ => ih) expression
    cases spelled with
    | signed isSign operand =>
      exact (Balanced.single (.inl (role_operator isSign))).append (ih operand)
    | parenthesis opens expression closes =>
      exact Balanced.parenthesis opens closes (inner expression)
    | call named items =>
      apply (Balanced.single (.inr (role_identifier named))).append
      cases items with
      | none opens closes =>
        have nothing : Balanced [] := fun _ => rfl
        exact Balanced.parenthesis opens closes nothing
      | some opens arguments closes =>
        apply Balanced.parenthesis opens closes
        exact Separated.joined joins_balanced (fun _ _ => inner) arguments
    | identifier named => exact Balanced.single (.inr (role_identifier named))
    | number | string | boolean => exact Balanced.single (.inr rfl)

theorem Expression.balanced {room : Nat} {tokens : List Token} {e : Expr}
    (spelled : Expression room tokens e) : Balanced tokens :=
  Assignment.joined joins_balanced (fun _ _ => Operand.balanced) spelled

end DrawScript.Grammar
