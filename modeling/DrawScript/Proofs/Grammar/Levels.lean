import DrawScript.Proofs.Grammar.Nesting

set_option autoImplicit false

namespace DrawScript.Grammar

open Place

theorem Tiered.single {tiers : List (List BinaryOp)} {operand : Spelling Expr} {tokens : List Token}
    {e : Expr} (only : operand tokens e) : Tiered tiers operand tokens e := by
  induction tiers generalizing operand with
  | nil => exact only
  | cons ops tiers ih => exact ih (Chain.single only)

theorem Tiered.binary {operand : Spelling Expr} {op : BinaryOp} (plain : op ≠ .assign)
    {lefts rights : List Token} {sign : Token} {left right : Expr} (before : operand lefts left)
    (isSign : sign.is .operator op.symbol) (after : operand rights right) :
    Tiered tiers operand (lefts ++ sign :: rights) (.binary op left right) := by
  -- The tighter tiers hold each operand alone, the looser ones the whole operation.
  obtain ⟨ops, tier, member⟩ : ∃ ops ∈ tiers, op ∈ ops := by
    cases op with
    | assign => exact absurd rfl plain
    | _ => decide
  obtain ⟨tighter, looser, order⟩ := List.append_of_mem tier
  have join :
      Chain ops (Tiered tighter operand) (lefts ++ sign :: rights) (.binary op left right) :=
    .join (.single (Tiered.single before)) member isSign (Tiered.single after)
  rw [order, Tiered, List.foldl_append, List.foldl_cons]
  exact Tiered.single join

/-- Where a phrase begins, this is spelled in that many levels and in no less. -/
structure Needs {α : Type} (phrase : Nat → Spelling α) (levels : Nat) (tokens : List Token)
    (value : α) : Prop where
  enough : ∀ room, levels ≤ room → phrase room tokens value
  deep : ∀ p : Place, p.Fresh → p.depth + levels ≤ p.deepest tokens

structure Operand.Needs (levels : Nat) (tokens : List Token) (e : Expr) : Prop where
  enough : ∀ room, levels ≤ room → Operand room tokens e
  deep : ∀ p : Place, p.wantsOperand → p.depth + p.signs + levels ≤ p.deepest tokens

def Expressions (room : Nat) : Spelling (List Expr) := Separated (Expression room)

theorem forall_above {levels : Nat} {property : Nat → Prop}
    (holds : ∀ room, levels ≤ room → property (room + 1)) :
    ∀ room, levels + 1 ≤ room → property room
  | room + 1, within => holds room (Nat.le_of_succ_le_succ within)

namespace Operand.Needs

variable {levels : Nat} {tokens : List Token} {e : Expr}

theorem expression (needs : Operand.Needs levels tokens e) :
    Grammar.Needs Expression levels tokens e := by
  constructor
  next =>
    intro room within
    exact .value (Tiered.single (needs.enough room within))
  next =>
    intro p fresh
    have deep := needs.deep p fresh.wants
    rwa [fresh.unsigned] at deep

theorem single {token : Token} (operand : role token = .operand)
    (spelled : ∀ room, Operand (room + 1) [token] e) : Operand.Needs 1 [token] e := by
  constructor
  next => exact forall_above fun room _ => spelled room
  next =>
    intro p wants
    rw [deepest_operand operand]
    omega

theorem signed {sign : Token} {op : UnaryOp} (isSign : sign.is .operator op.symbol)
    (needs : Operand.Needs levels tokens e) :
    Operand.Needs (levels + 1) (sign :: tokens) (.unary op e) := by
  constructor
  next => exact forall_above fun room within => .signed isSign (needs.enough room within)
  next =>
    intro p wants
    have joint := role_operator isSign
    have deep : p.depth + (p.signs + 1) + levels ≤ p.signed.deepest tokens :=
      needs.deep p.signed wants
    rw [deepest_other (by simp [joint]), next_sign joint wants]
    omega

theorem parenthesis {opening closing : Token} (opens : opening.is .delimiter "(")
    (closes : closing.is .delimiter ")") (needs : Grammar.Needs Expression levels tokens e) :
    Operand.Needs (levels + 1) (opening :: tokens ++ [closing]) e := by
  constructor
  next => exact forall_above fun room within => .parenthesis opens (needs.enough room within) closes
  next =>
    intro p wants
    have deep : p.depth + p.signs + 1 + levels ≤ p.inside.deepest tokens :=
      needs.deep p.inside p.inside_fresh
    rw [deepest_bracketed opens closes]
    omega

section Calls

variable {callee opening closing : Token} {name : String}
  (named : callee.is .identifier name) (opens : opening.is .delimiter "(")
  (closes : closing.is .delimiter ")")

include named opens closes

theorem call {arguments : List Expr} (needs : Grammar.Needs Expressions levels tokens arguments) :
    Operand.Needs (levels + 1) (callee :: (opening :: tokens ++ [closing]))
      (.call name arguments) := by
  constructor
  next =>
    apply forall_above
    intro room within
    exact .call named (.some opens (needs.enough room within) closes)
  next =>
    intro p wants
    have operand := role_identifier named
    have deep : p.depth + p.signs + 1 + levels ≤ p.inside.deepest tokens :=
      needs.deep p.inside p.inside_fresh
    have same : inside { p with wantsOperand := false } = p.inside := rfl
    rw [deepest_operand operand, next_operand operand, deepest_bracketed opens closes, same]
    omega

theorem callNothing : Operand.Needs 1 [callee, opening, closing] (.call name []) := by
  constructor
  next => exact forall_above fun room _ => .call named (.none opens closes)
  next =>
    intro p wants
    rw [deepest_operand (role_identifier named)]
    omega

end Calls

end Operand.Needs

namespace Needs

variable {before later : Nat} {lefts rights : List Token} {sign : Token}

theorem deep_joined {p : Place} (fresh : p.Fresh) (joint : role sign = .joint)
    (stays : p.Stays before lefts) (deepLeft : p.depth + before ≤ p.deepest lefts)
    (deepRight : p.depth + later ≤ p.deepest rights) :
    p.depth + max before later ≤ p.deepest (lefts ++ sign :: rights) := by
  -- After the left part the sign leads back to the place where it began.
  obtain ⟨signs, back⟩ := stays.back
  rw [deepest_append, deepest_other (by simp [joint]), back, next_joint joint fresh]
  omega

theorem binary {op : BinaryOp} (plain : op ≠ .assign) {left right : Expr}
    (isSign : sign.is .operator op.symbol) (first : Operand.Needs before lefts left)
    (second : Operand.Needs later rights right) :
    Needs Expression (max before later) (lefts ++ sign :: rights) (.binary op left right) := by
  constructor
  next =>
    intro room within
    obtain ⟨leftFits, rightFits⟩ := Nat.max_le.mp within
    exact .value (Tiered.binary plain (first.enough room leftFits) isSign
      (second.enough room rightFits))
  next =>
    intro p fresh
    have stays := (first.enough before (Nat.le_refl _)).stays fresh.wants
    exact deep_joined fresh (role_operator isSign) stays (first.expression.deep p fresh)
      (second.expression.deep p fresh)

theorem assign {name : String} {e : Expr} (isSign : sign.is .assign "=")
    (target : Operand.Needs before lefts (.identifier name))
    (value : Needs Expression later rights e) :
    Needs Expression (max before later) (lefts ++ sign :: rights)
      (.binary .assign (.identifier name) e) := by
  constructor
  next =>
    intro room within
    obtain ⟨targetFits, valueFits⟩ := Nat.max_le.mp within
    exact .assign (Tiered.single (target.enough room targetFits)) isSign
      (value.enough room valueFits)
  next =>
    intro p fresh
    have stays := (target.enough before (Nat.le_refl _)).stays fresh.wants
    exact deep_joined fresh (role_assign isSign) stays (target.expression.deep p fresh)
      (value.deep p fresh)

theorem one {e : Expr} (only : Needs Expression before lefts e) :
    Needs Expressions before lefts [e] :=
  ⟨fun room within => .one (only.enough room within), only.deep⟩

theorem more {e : Expr} {es : List Expr} (isComma : sign.is .delimiter ",")
    (first : Needs Expression before lefts e) (others : Needs Expressions later rights es) :
    Needs Expressions (max before later) (lefts ++ sign :: rights) (e :: es) := by
  constructor
  next =>
    intro room within
    obtain ⟨firstFits, othersFit⟩ := Nat.max_le.mp within
    exact .more (first.enough room firstFits) isComma (others.enough room othersFit)
  next =>
    intro p fresh
    have stays := (first.enough before (Nat.le_refl _)).stays fresh
    exact deep_joined fresh (role_comma isComma) stays (first.deep p fresh) (others.deep p fresh)

theorem le_of_expression {levels room : Nat} {tokens : List Token} {e x : Expr}
    (needs : Needs Expression levels tokens e) (spelled : Expression room tokens x) :
    levels ≤ room := by
  -- The deepest token does not depend on how the tokens are spelled.
  have fresh : Place.Fresh ⟨0, [], 0, true⟩ := ⟨rfl, rfl⟩
  have deep : 0 + levels ≤ _ := needs.deep _ fresh
  have bound : _ ≤ 0 + 0 + room := (spelled.stays fresh).bound
  omega

end Needs

theorem expression_of_script {tokens : List Token} {stop : Token} {e : Expr} {line : Nat}
    (spelled : Script (tokens ++ [stop]) [.expression e line]) :
    Expression maxNesting tokens e := by
  generalize whole : tokens ++ [stop] = all at spelled
  cases spelled with
  | cons first later =>
    cases later
    cases first with
    | var declared => cases declared
    | ifElse chain => cases chain
    | expression plain stops =>
      rw [List.append_nil] at whole
      obtain ⟨same, _⟩ := List.append_inj' whole rfl
      rw [same]
      exact plain

theorem script_of_expression {tokens : List Token} {stop : Token} {e : Expr} {line : Nat}
    (spelled : Expression maxNesting tokens e) (stops : stop.is .delimiter ";")
    (sameLine : ∀ token ∈ tokens, token.line = line) :
    Script (tokens ++ [stop]) [.expression e line] := by
  obtain ⟨first, more, rfl, _⟩ := spelled.begins
  rw [← sameLine first List.mem_cons_self, ← List.append_nil (_ ++ [stop])]
  exact .cons (.expression spelled stops) .nil

end DrawScript.Grammar
