import DrawScript.Proofs.Grammar.Completeness.Basic

set_option autoImplicit false

namespace DrawScript.Grammar

/-- Neither an argument list nor one of these operators follows. -/
def Stops (ops : List BinaryOp) (rest : List Token) : Prop :=
  ∀ token more, rest = token :: more → ¬token.is .delimiter "(" ∧ binaryOf? ops token = none

theorem Stops.of_kind {token : Token} (noOperator : token.kind ≠ .operator)
    (noOpening : ¬token.is .delimiter "(") (ops : List BinaryOp) (more : List Token) :
    Stops ops (token :: more) := by
  rintro _ _ ⟨⟩
  refine ⟨noOpening, binaryOf?_eq_none.mpr ?_⟩
  intro op _ isSign
  exact noOperator (Token.is_iff.mp isSign).1

theorem Stops.of_other {op : BinaryOp} {token : Token} (isSign : token.is .operator op.symbol)
    {ops : List BinaryOp} (other : op ∉ ops) (more : List Token) : Stops ops (token :: more) := by
  rintro _ _ ⟨⟩
  refine ⟨by simp [Token.is_of_is isSign], binaryOf?_eq_none.mpr ?_⟩
  intro seen member isSeen
  have same : op.symbol = seen.symbol := by
    simpa using (Token.is_of_is isSign .operator seen.symbol).symm.trans isSeen
  exact other (BinaryOp.symbol_injective same ▸ member)

theorem Stops.of_subset {ops more : List BinaryOp} (fewer : ops ⊆ more) {rest : List Token}
    (stops : Stops more rest) : Stops ops rest := by
  intro token later front
  obtain ⟨noOpening, noSign⟩ := stops token later front
  refine ⟨noOpening, binaryOf?_eq_none.mpr ?_⟩
  intro op member
  exact binaryOf?_eq_none.mp noSign op (fewer member)

structure Ended (rest : List Token) : Prop where
  stops : Stops tiers.flatten rest
  noSign : ¬Begins (·.is .assign "=") rest

theorem Ended.of_kind {token : Token} (noOperator : token.kind ≠ .operator)
    (noSign : token.kind ≠ .assign) (noOpening : ¬token.is .delimiter "(") (more : List Token) :
    Ended (token :: more) := by
  refine ⟨.of_kind noOperator noOpening _ more, ?_⟩
  rintro ⟨_, _, ⟨⟩, isSign⟩
  exact noSign (Token.is_iff.mp isSign).1

theorem Ended.of_closed {rest : List Token} (closed : Closed rest) : Ended rest := by
  obtain ⟨token, more, rfl, kind, noOpening⟩ := closed
  exact .of_kind (by simp [kind]) (by simp [kind]) noOpening more

theorem takeBinary_yields {ops : List BinaryOp} {token : Token} {op : BinaryOp}
    (member : op ∈ ops) (isSign : token.is .operator op.symbol) {rest : List Token} :
    Yields (takeBinary ops) [token] (some op) rest := by
  refine Yields.get fun s front => ?_
  have found := binaryOf?_eq_some.mpr ⟨member, isSign⟩
  simp only [front, List.cons_append, List.head?_cons, Option.bind_some, found]
  exact Yields.finish advance_yields .pure

theorem takeBinary_passed {ops : List BinaryOp} {rest : List Token} (stops : Stops ops rest) :
    Yields (takeBinary ops) [] none rest := by
  refine Yields.get fun s front => ?_
  cases rest with
  | nil =>
    simp only [front, List.append_nil, List.head?_nil, Option.bind_none]
    exact .pure
  | cons token more =>
    simp only [front, List.nil_append, List.head?_cons, Option.bind_some,
      (stops token more rfl).2]
    exact .pure

section

variable {spelling : Spelling Expr} {p : Parser Expr}

theorem chain_yields {ops tighter : List BinaryOp} (covers : Covers spelling (Stops tighter) p)
    (apart : ∀ op ∈ ops, op ∉ tighter) {tokens : List Token} {e : Expr}
    (spelled : Chain ops spelling tokens e) {later rest : List Token} {result : Expr}
    (follow : Stops tighter (later ++ rest))
    (continues : ∀ bound : List Token, (later ++ rest).length ≤ bound.length →
      Yields (chainFrom ops p bound e) later result rest) :
    Yields (chain ops p) (tokens ++ later) result rest := by
  -- The chain is taken apart from the right, the loop runs from the left: behind any part of the
  -- chain it goes on from the tree of that part, with a bound for every token left.
  induction spelled generalizing later with
  | single only =>
    apply Yields.bind (covers _ _ _ only follow)
    exact Yields.get fun s front => continues s.rest (Nat.le_of_eq (by rw [front]))
  | @join lefts rights sign op left right before member isSign last ih =>
    rw [List.append_assoc, List.cons_append]
    refine ih (Stops.of_other isSign (apart op member) _) ?_
    intro bound enough
    cases bound with
    | nil => simp at enough
    | cons _ bound =>
      apply Yields.token (takeBinary_yields member isSign)
      refine Yields.bind (covers _ _ _ last follow) (continues bound ?_)
      simp only [List.length_append, List.length_cons] at enough ⊢
      omega

theorem chain_covers {ops tighter : List BinaryOp} (covers : Covers spelling (Stops tighter) p)
    (apart : ∀ op ∈ ops, op ∉ tighter) :
    Covers (Chain ops spelling) (Stops (tighter ++ ops)) (chain ops p) := by
  intro tokens e rest spelled follow
  have inner : Stops tighter rest := follow.of_subset (List.subset_append_left _ _)
  have outer : Stops ops rest := follow.of_subset (List.subset_append_right _ _)
  rw [← List.append_nil tokens]
  refine chain_yields covers apart spelled inner ?_
  intro bound _
  cases bound with
  | nil => exact .pure
  | cons _ bound => exact Yields.look (takeBinary_passed outer) .pure

theorem tiered_covers {tiers : List (List BinaryOp)} {tighter : List BinaryOp}
    (covers : Covers spelling (Stops tighter) p) (apart : (tighter ++ tiers.flatten).Nodup) :
    Covers (Tiered tiers spelling) (Stops (tighter ++ tiers.flatten))
      (tiers.foldl (fun tighter ops => chain ops tighter) p) := by
  induction tiers generalizing spelling p tighter with
  | nil =>
    rw [List.flatten_nil, List.append_nil]
    exact covers
  | cons ops tiers ih =>
    simp only [List.flatten_cons, ← List.append_assoc] at apart ⊢
    refine ih (chain_covers covers ?_) apart
    have disjoint := (List.nodup_append.mp (List.nodup_append.mp apart).1).2.2
    intro op member present
    exact disjoint op present op member rfl

theorem disjunction_covers (covers : Covers spelling (Stops []) p) :
    Covers (Tiered tiers spelling) (Stops tiers.flatten) (disjunction p) :=
  tiered_covers covers (by decide)

theorem assignment_yields (covers : Covers spelling (Stops []) p) {tokens : List Token} {e : Expr}
    (begins : ∀ tokens e, spelling tokens e → Begins StartsOperand tokens)
    (spelled : Assignment spelling tokens e) {rest : List Token} (ended : Ended rest)
    (bound : List Token) (enough : (tokens ++ rest).length ≤ bound.length) :
    Yields (assignment p bound) tokens e rest := by
  have nonempty {tokens : List Token} {e : Expr} (plain : Tiered tiers spelling tokens e) :
      0 < tokens.length := by
    obtain ⟨_, _, rfl, -⟩ := Tiered.begins begins tiers plain
    simp
  induction spelled generalizing bound with
  | @value tokens e plain =>
    have some := nonempty plain
    cases bound with
    | nil =>
      rw [List.length_append, List.length_nil] at enough
      omega
    | cons _ bound =>
      apply Yields.finish (disjunction_covers covers _ _ _ plain ended.stops)
      refine Yields.currentLine fun _ => ?_
      exact Yields.look (takes_passed ended.noSign) .pure
  | @assign targets values sign name e target isSign value ih =>
    have some := nonempty target
    cases bound with
    | nil =>
      rw [List.length_append, List.length_nil] at enough
      simp at enough
    | cons _ bound =>
      have kind := (Token.is_iff.mp isSign).1
      have follow : Stops tiers.flatten (sign :: values ++ rest) :=
        .of_kind (by simp [kind]) (by simp [Token.is, kind]) _ _
      apply Yields.bind (disjunction_covers covers _ _ _ target follow)
      apply Yields.look (currentLine_yields rfl)
      apply Yields.token (takes_yields isSign)
      refine Yields.finish (ih bound ?_) .pure
      simp only [List.length_append, List.length_cons] at enough ⊢
      omega

theorem expressionOf_covers (covers : Covers spelling (Stops []) p)
    (begins : ∀ tokens e, spelling tokens e → Begins StartsOperand tokens) :
    Covers (Assignment spelling) Ended (expressionOf p) := by
  intro tokens e rest spelled ended
  refine Yields.get fun s front => ?_
  exact assignment_yields covers begins spelled ended s.rest (Nat.le_of_eq (by rw [front]))

end

theorem takeUnary_yields {token : Token} {op : UnaryOp} (isSign : token.is .operator op.symbol)
    {rest : List Token} : Yields takeUnary [token] (some op) rest := by
  refine Yields.get fun s front => ?_
  simp only [front, List.cons_append, List.head?_cons, Option.bind_some,
    unaryOf?_eq_some.mpr isSign]
  exact Yields.finish advance_yields .pure

theorem takeUnary_passed {token : Token} (noOperator : token.kind ≠ .operator)
    {more : List Token} : Yields takeUnary [] none (token :: more) := by
  refine Yields.get fun s front => ?_
  have unfound : unaryOf? token = none := by
    cases found : unaryOf? token with
    | none => rfl
    | some op => exact absurd (Token.is_iff.mp (unaryOf?_eq_some.mp found)).1 noOperator
  simp only [front, List.nil_append, List.head?_cons, Option.bind_some, unfound]
  exact .pure

theorem operand_covers (room : Nat) : Covers (Operand room) (Stops []) (operand room) := by
  -- What stands in parentheses, in an argument list or behind a sign has one level less.
  induction room with
  | zero => exact fun _ _ _ spelled => spelled.elim
  | succ room ih =>
    intro tokens e rest spelled follow
    have inner : Covers (Expression room) Closed (expressionOf (operand room)) :=
      (expressionOf_covers ih fun _ _ => Operand.begins).mono fun _ => .of_closed
    cases spelled with
    | signed isSign operand =>
      apply Yields.token (takeUnary_yields isSign)
      exact Yields.finish (ih _ _ _ operand follow) .pure
    | @parenthesis opening closing tokens e opens spelled closes =>
      obtain ⟨kind, value⟩ := Token.is_iff.mp opens
      apply Yields.look (takeUnary_passed (by simp [kind]))
      refine Yields.get fun s front => ?_
      simp only [front, List.cons_append, kind, value, if_true]
      refine Yields.token advance_yields ?_
      apply Yields.bind (inner _ _ _ spelled (.of_is closes (by decide) _))
      exact Yields.token (expect_yields closes) .pure
    | @call callee name tokens arguments named items =>
      obtain ⟨kind, value⟩ := Token.is_iff.mp named
      apply Yields.look (takeUnary_passed (by simp [kind]))
      refine Yields.get fun s front => ?_
      simp only [front, List.cons_append, kind, value]
      refine Yields.token advance_yields ?_
      apply Yields.look (sees_yields _ _)
      have opens : (tokens ++ rest).head?.any (·.is .delimiter "(") = true := by
        cases items with
        | none opens | some opens => simpa using opens
      simp only [opens, if_true]
      exact Yields.finish (parenthesized_yields inner (fun _ _ => Expression.begins) items) .pure
    | @identifier token name named =>
      obtain ⟨kind, value⟩ := Token.is_iff.mp named
      apply Yields.look (takeUnary_passed (by simp [kind]))
      refine Yields.get fun s front => ?_
      simp only [front, List.cons_append, kind, value]
      refine Yields.token advance_yields ?_
      apply Yields.look (sees_yields _ _)
      have noOpening : rest.head?.any (·.is .delimiter "(") = false := by
        cases rest with
        | nil => rfl
        | cons token more => simpa using (follow token more rfl).1
      simp only [List.nil_append, noOpening, Bool.false_eq_true, if_false]
      exact .pure
    | number | string | boolean =>
      apply Yields.look (takeUnary_passed (by simp))
      refine Yields.get fun s front => ?_
      simp only [front, List.cons_append]
      exact Yields.token advance_yields .pure

theorem expression_ended (room : Nat) : Covers (Expression room) Ended (expression room) :=
  expressionOf_covers (operand_covers room) fun _ _ => Operand.begins

theorem expression_covers (room : Nat) : Covers (Expression room) Closed (expression room) :=
  (expression_ended room).mono fun _ => .of_closed

def Breaks (token : Token) : Prop := ∃ text ∈ [";", "\x7b"], token.is .delimiter text

theorem Breaks.not_of_is {token : Token} {kind : Token.Kind} {text : String}
    (same : token.is kind text) (other : kind = .delimiter → text ∉ [";", "\x7b"]) :
    ¬Breaks token := by
  rintro ⟨mark, member, isMark⟩
  obtain ⟨delimiter, rfl⟩ : kind = .delimiter ∧ text = mark := by
    simpa [Token.is_of_is same] using isMark
  exact other delimiter member

def Unbroken (tokens : List Token) : Prop :=
  ∀ token ∈ tokens, token.kind ≠ .access ∧ ¬Breaks token

theorem Unbroken.of_is {token : Token} {kind : Token.Kind} {text : String}
    (same : token.is kind text) (noPoint : kind ≠ .access)
    (other : kind = .delimiter → text ∉ [";", "\x7b"]) : Unbroken [token] := by
  intro _ member
  rw [List.mem_singleton.mp member, (Token.is_iff.mp same).1]
  exact ⟨noPoint, Breaks.not_of_is same other⟩

theorem Unbroken.append {tokens others : List Token} (first : Unbroken tokens)
    (second : Unbroken others) : Unbroken (tokens ++ others) := by
  intro token member
  exact (List.mem_append.mp member).elim (first token) (second token)

section

variable {spelling : Spelling Expr} (items : ∀ tokens e, spelling tokens e → Unbroken tokens)
  {tokens : List Token}

include items

theorem Chain.unbroken {ops : List BinaryOp} {e : Expr} (spelled : Chain ops spelling tokens e) :
    Unbroken tokens := by
  induction spelled with
  | single only => exact items _ _ only
  | join _ _ isSign last ih =>
    exact ih.append ((Unbroken.of_is isSign (by decide) (by simp)).append (items _ _ last))

theorem Tiered.unbroken (tiers : List (List BinaryOp)) {e : Expr}
    (spelled : Tiered tiers spelling tokens e) : Unbroken tokens := by
  induction tiers generalizing spelling with
  | nil => exact items _ _ spelled
  | cons ops tiers ih => exact ih (fun _ _ => Chain.unbroken items) spelled

theorem Assignment.unbroken {e : Expr} (spelled : Assignment spelling tokens e) :
    Unbroken tokens := by
  induction spelled with
  | value plain => exact Tiered.unbroken items tiers plain
  | assign target isSign _ ih =>
    exact (Tiered.unbroken items tiers target).append
      ((Unbroken.of_is isSign (by decide) (by simp)).append ih)

end

theorem Parenthesized.unbroken {α : Type} {spelling : Spelling α}
    (items : ∀ tokens value, spelling tokens value → Unbroken tokens) {tokens : List Token}
    {values : List α} (spelled : Parenthesized spelling tokens values) : Unbroken tokens := by
  have separated {tokens : List Token} {values : List α}
      (spelled : Separated spelling tokens values) : Unbroken tokens := by
    induction spelled with
    | one only => exact items _ _ only
    | more first isComma _ ih =>
      exact (items _ _ first).append ((Unbroken.of_is isComma (by decide) (by decide)).append ih)
  cases spelled with
  | none opens closes =>
    exact (Unbroken.of_is opens (by decide) (by decide)).append
      (.of_is closes (by decide) (by decide))
  | some opens inner closes =>
    exact ((Unbroken.of_is opens (by decide) (by decide)).append (separated inner)).append
      (.of_is closes (by decide) (by decide))

theorem Operand.unbroken {room : Nat} {tokens : List Token} {e : Expr}
    (spelled : Operand room tokens e) : Unbroken tokens := by
  induction room generalizing tokens e with
  | zero => exact spelled.elim
  | succ room ih =>
    have inner (tokens : List Token) (e : Expr) (spelled : Operand room tokens e) :
        Unbroken tokens := ih spelled
    cases spelled with
    | signed isSign operand =>
      exact (Unbroken.of_is isSign (by decide) (by simp)).append (ih operand)
    | parenthesis opens spelled closes =>
      exact ((Unbroken.of_is opens (by decide) (by decide)).append (spelled.unbroken inner)).append
        (.of_is closes (by decide) (by decide))
    | call named items =>
      refine (Unbroken.of_is named (by decide) (by simp)).append ?_
      exact items.unbroken fun _ _ spelled => spelled.unbroken inner
    | identifier named => exact .of_is named (by decide) (by simp)
    | number | string | boolean => simp [Unbroken, Breaks, Token.is]

theorem Expression.unbroken {room : Nat} {tokens : List Token} {e : Expr}
    (spelled : Expression room tokens e) : Unbroken tokens :=
  Assignment.unbroken (fun _ _ => Operand.unbroken) spelled

end DrawScript.Grammar
