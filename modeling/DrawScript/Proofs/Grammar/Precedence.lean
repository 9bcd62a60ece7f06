import DrawScript.Proofs.Grammar.Acceptance
import DrawScript.Proofs.Grammar.Levels
import DrawScript.Proofs.Script.Walk

set_option autoImplicit false

namespace DrawScript

def BinaryOp.strength : BinaryOp → Nat
  | .assign => 0
  | .or => 1
  | .and => 2
  | .equal | .notEqual => 3
  | .less | .lessEq | .greater | .greaterEq => 4
  | .add | .subtract => 5
  | .multiply | .divide | .modulo => 6

def Expr.strength : Expr → Nat
  | .binary op _ _ => op.strength
  | _ => 7

abbrev Token.Content := Token.Kind × Token.Value

def Token.content (t : Token) : Token.Content := (t.kind, t.value)

def bracketed (needed : Bool) (contents : List Token.Content) : List Token.Content :=
  if needed then (.delimiter, .lexeme "(") :: contents ++ [(.delimiter, .lexeme ")")] else contents

mutual
def Expr.print : Expr → List Token.Content
  | .identifier name => [(.identifier, .lexeme name)]
  | .number n => [(.number, .number n)]
  | .string contents => [(.string, .string contents)]
  | .boolean b => [(.boolean, .boolean b)]
  | .call callee arguments =>
      (.identifier, .lexeme callee) :: bracketed true (Expr.printAll arguments)
  | .unary op operand =>
      (.operator, .lexeme op.symbol) :: bracketed (operand.strength < 7) operand.print
  | .binary op left right =>
      bracketed (left.strength < op.strength) left.print ++
        (if op = .assign then .assign else .operator, .lexeme op.symbol) ::
          bracketed (op ≠ .assign ∧ right.strength ≤ op.strength) right.print

def Expr.printAll : List Expr → List Token.Content
  | [] => []
  | [e] => e.print
  | e :: other :: others =>
      e.print ++ (.delimiter, .lexeme ",") :: Expr.printAll (other :: others)
end

/-- What is assigned to, here or in a part, is a name. -/
def Expr.AssignsNames (e : Expr) : Prop :=
  ∀ target value, .binary .assign target value ∈ e.parts → ∃ name, target = .identifier name

theorem Expr.AssignsNames.part {e part : Expr} (names : e.AssignsNames)
    (within : ∀ x ∈ part.parts, x ∈ e.parts) : part.AssignsNames :=
  fun target value member => names target value (within _ member)

theorem BinaryOp.strength_lt (op : BinaryOp) : op.strength < 7 := by cases op <;> decide

namespace Grammar

variable {tokens : List Token}

theorem Token.is_of_content {token : Token} {kind : Token.Kind} {text : String}
    (content : token.content = (kind, .lexeme text)) : token.is kind text := by
  rw [Token.content, Prod.mk.injEq] at content
  exact Token.is_iff.mpr content

theorem Tiered.loosen {tighter : List (List BinaryOp)} (looser : List (List BinaryOp))
    {operand : Spelling Expr} {e : Expr} (spelled : Tiered tighter operand tokens e) :
    Tiered (tighter ++ looser) operand tokens e := by
  rw [Tiered, List.foldl_append]
  exact Tiered.single spelled

theorem tier_of {op : BinaryOp} (plain : op ≠ .assign) :
    ∃ ops, op ∈ ops ∧
      tiers.take (7 - op.strength) = tiers.take (7 - (op.strength + 1)) ++ [ops] := by
  cases op with
  | assign => exact absurd rfl plain
  | or => exact ⟨[.or], by decide, rfl⟩
  | and => exact ⟨[.and], by decide, rfl⟩
  | equal | notEqual => exact ⟨[.equal, .notEqual], by decide, rfl⟩
  | less | lessEq | greater | greaterEq =>
    exact ⟨[.less, .lessEq, .greater, .greaterEq], by decide, rfl⟩
  | add | subtract => exact ⟨[.add, .subtract], by decide, rfl⟩
  | multiply | divide | modulo => exact ⟨[.multiply, .divide, .modulo], by decide, rfl⟩

/-- These tokens spell the expression in that many levels and no less, also as an operand of an
operator of at most this strength. -/
structure Binds (strength levels : Nat) (tokens : List Token) (e : Expr) : Prop where
  whole : Needs Expression levels tokens e
  tight : 0 < strength → ∀ room, levels ≤ room →
    Tiered (tiers.take (7 - strength)) (Operand room) tokens e
  operand : 7 ≤ strength → Operand.Needs levels tokens e

namespace Binds

variable {levels later strength : Nat} {e : Expr}

theorem of_operand (needs : Operand.Needs levels tokens e) : Binds 7 levels tokens e :=
  ⟨needs.expression, fun _ room within => needs.enough room within, fun _ => needs⟩

theorem weaken (binds : Binds strength levels tokens e) {weaker : Nat} (le : weaker ≤ strength) :
    Binds weaker levels tokens e := by
  constructor
  case whole => exact binds.whole
  case operand =>
    intro tightest
    exact binds.operand (Nat.le_trans tightest le)
  case tight =>
    intro positive room within
    obtain ⟨more, split⟩ := Nat.exists_eq_add_of_le (Nat.sub_le_sub_left le 7)
    rw [split, List.take_add]
    exact (binds.tight (Nat.lt_of_lt_of_le positive le) room within).loosen _

theorem join {op : BinaryOp} (plain : op ≠ .assign) {lefts rights : List Token} {sign : Token}
    {left right : Expr} (isSign : sign.is .operator op.symbol)
    (first : Binds op.strength levels lefts left)
    (second : Binds (op.strength + 1) later rights right) :
    Binds op.strength (max levels later) (lefts ++ sign :: rights) (.binary op left right) := by
  have positive : 0 < op.strength := by
    cases op with
    | assign => exact absurd rfl plain
    | _ => decide
  have chained : ∀ room, max levels later ≤ room →
      Tiered (tiers.take (7 - op.strength)) (Operand room) (lefts ++ sign :: rights)
        (.binary op left right) := by
    -- The left operand may hold operators of the same tier, the right one has tighter ones only.
    intro room within
    obtain ⟨leftFits, rightFits⟩ := Nat.max_le.mp within
    obtain ⟨ops, member, tier⟩ := tier_of plain
    have before := first.tight positive room leftFits
    rw [tier, Tiered, List.foldl_append] at before ⊢
    exact .join before member isSign (second.tight (Nat.succ_pos _) room rightFits)
  constructor
  case tight => exact fun _ => chained
  case operand => exact fun tightest => absurd op.strength_lt (Nat.not_lt.mpr tightest)
  case whole =>
    constructor
    next =>
      intro room within
      have all := (chained room within).loosen (tiers.drop (7 - op.strength))
      rw [List.take_append_drop] at all
      exact .value all
    next =>
      intro p fresh
      have stays := (first.whole.enough levels (Nat.le_refl _)).stays fresh
      exact Needs.deep_joined fresh (role_operator isSign) stays (first.whole.deep p fresh)
        (second.whole.deep p fresh)

end Binds

/-- Tokens with what is printed for the expression hold together as tightly as it does. -/
def Kept (e : Expr) : Prop :=
  ∀ tokens : List Token, tokens.map Token.content = e.print →
    ∃ levels, Binds e.strength levels tokens e

theorem Kept.bracketed {e : Expr} (kept : Kept e) {needed : Bool} {enough : Nat}
    (within : enough ≤ 7) (tight : needed = false → enough ≤ e.strength)
    (printed : tokens.map Token.content = bracketed needed e.print) :
    ∃ levels, Binds enough levels tokens e := by
  cases needed with
  | false =>
    obtain ⟨levels, binds⟩ := kept tokens printed
    exact ⟨levels, binds.weaken (tight rfl)⟩
  | true =>
    obtain ⟨front, back, rfl, opened, closed⟩ := List.map_eq_append_iff.mp printed
    obtain ⟨opening, tokens, rfl, opens, spelled⟩ := List.map_eq_cons_iff.mp opened
    obtain ⟨closing, rfl, closes⟩ := List.map_eq_singleton_iff.mp closed
    obtain ⟨levels, binds⟩ := kept tokens spelled
    have needs := Operand.Needs.parenthesis (Token.is_of_content opens)
      (Token.is_of_content closes) binds.whole
    exact ⟨levels + 1, (Binds.of_operand needs).weaken within⟩

theorem Kept.identifier (name : String) : Kept (.identifier name) := by
  intro tokens printed
  obtain ⟨token, rfl, content⟩ := List.map_eq_singleton_iff.mp printed
  have named := Token.is_of_content content
  exact ⟨1, .of_operand (.single (role_identifier named) fun _ => .identifier named)⟩

theorem Kept.unary {op : UnaryOp} {operand : Expr} (kept : Kept operand) :
    Kept (.unary op operand) := by
  intro tokens printed
  obtain ⟨sign, tokens, rfl, content, spelled⟩ := List.map_eq_cons_iff.mp printed
  obtain ⟨levels, binds⟩ := kept.bracketed (Nat.le_refl 7) (by simp) spelled
  have needs := binds.operand (Nat.le_refl 7)
  exact ⟨levels + 1, .of_operand (needs.signed (Token.is_of_content content))⟩

theorem Kept.binary {op : BinaryOp} (plain : op ≠ .assign) {left right : Expr} (first : Kept left)
    (second : Kept right) : Kept (.binary op left right) := by
  intro tokens printed
  obtain ⟨lefts, behind, rfl, before, signed⟩ := List.map_eq_append_iff.mp printed
  obtain ⟨sign, rights, rfl, content, after⟩ := List.map_eq_cons_iff.mp signed
  rw [if_neg plain] at content
  have tighter : decide (op ≠ .assign ∧ right.strength ≤ op.strength) = false →
      op.strength < right.strength := by
    simp [plain]
  obtain ⟨levels, leftBinds⟩ := first.bracketed (Nat.le_of_lt op.strength_lt) (by simp) before
  obtain ⟨later, rightBinds⟩ := second.bracketed op.strength_lt tighter after
  exact ⟨max levels later, .join plain (Token.is_of_content content) leftBinds rightBinds⟩

theorem Kept.assign (name : String) {value : Expr} (kept : Kept value) :
    Kept (.binary .assign (.identifier name) value) := by
  intro tokens printed
  obtain ⟨targets, behind, rfl, before, signed⟩ := List.map_eq_append_iff.mp printed
  obtain ⟨sign, values, rfl, content, after⟩ := List.map_eq_cons_iff.mp signed
  obtain ⟨levels, target⟩ := Kept.identifier name targets before
  obtain ⟨later, valueBinds⟩ := kept values after
  have whole := Needs.assign (Token.is_of_content content) (target.operand (Nat.le_refl 7))
    valueBinds.whole
  -- Its own strength is 0: it is an operand of no operator.
  exact ⟨max levels later, whole, fun positive => absurd positive (Nat.not_lt_zero 0),
    fun tightest => absurd tightest (Nat.not_le.mpr BinaryOp.assign.strength_lt)⟩

theorem needs_of_printAll {e : Expr} {others : List Expr} (kept : ∀ x ∈ e :: others, Kept x)
    (printed : tokens.map Token.content = Expr.printAll (e :: others)) :
    ∃ levels, Needs Expressions levels tokens (e :: others) := by
  obtain ⟨first, later⟩ := List.forall_mem_cons.mp kept
  induction others generalizing e tokens with
  | nil =>
    obtain ⟨levels, binds⟩ := first tokens printed
    exact ⟨levels, .one binds.whole⟩
  | cons other others ih =>
    obtain ⟨tokens, behind, rfl, before, separated⟩ := List.map_eq_append_iff.mp printed
    obtain ⟨comma, rest, rfl, content, after⟩ := List.map_eq_cons_iff.mp separated
    obtain ⟨levels, binds⟩ := first tokens before
    obtain ⟨second, others⟩ := List.forall_mem_cons.mp later
    obtain ⟨deeper, needs⟩ := ih later after second others
    exact ⟨max levels deeper, .more (Token.is_of_content content) binds.whole needs⟩

theorem Kept.call (callee : String) {arguments : List Expr} (kept : ∀ e ∈ arguments, Kept e) :
    Kept (.call callee arguments) := by
  intro tokens printed
  obtain ⟨name, list, rfl, content, listed⟩ := List.map_eq_cons_iff.mp printed
  obtain ⟨front, back, rfl, opened, closed⟩ := List.map_eq_append_iff.mp listed
  obtain ⟨opening, tokens, rfl, opens, spelled⟩ := List.map_eq_cons_iff.mp opened
  obtain ⟨closing, rfl, closes⟩ := List.map_eq_singleton_iff.mp closed
  have named := Token.is_of_content content
  have isOpening := Token.is_of_content opens
  have isClosing := Token.is_of_content closes
  cases arguments with
  | nil =>
    obtain rfl := List.map_eq_nil_iff.mp spelled
    exact ⟨1, .of_operand (.callNothing named isOpening isClosing)⟩
  | cons first others =>
    obtain ⟨levels, needs⟩ := needs_of_printAll kept spelled
    exact ⟨levels + 1, .of_operand (.call named isOpening isClosing needs)⟩

mutual
theorem kept (e : Expr) (names : e.AssignsNames) : Kept e := by
  cases e with
  | identifier name => exact .identifier name
  | number n =>
    intro tokens printed
    obtain ⟨⟨_, _, line⟩, rfl, ⟨⟩⟩ := List.map_eq_singleton_iff.mp printed
    exact ⟨1, .of_operand (.single rfl fun _ => .number)⟩
  | string contents =>
    intro tokens printed
    obtain ⟨⟨_, _, line⟩, rfl, ⟨⟩⟩ := List.map_eq_singleton_iff.mp printed
    exact ⟨1, .of_operand (.single rfl fun _ => .string)⟩
  | boolean b =>
    intro tokens printed
    obtain ⟨⟨_, _, line⟩, rfl, ⟨⟩⟩ := List.map_eq_singleton_iff.mp printed
    exact ⟨1, .of_operand (.single rfl fun _ => .boolean)⟩
  | unary op operand =>
    exact .unary (kept operand (names.part fun x inside => List.mem_cons_of_mem _ inside))
  | binary op left right =>
    have rightKept := kept right
      (names.part fun x inside => List.mem_cons_of_mem _ (List.mem_append_right _ inside))
    by_cases assigns : op = .assign
    next =>
      obtain rfl := assigns
      obtain ⟨name, rfl⟩ := names left right List.mem_cons_self
      exact .assign name rightKept
    next =>
      have leftKept := kept left
        (names.part fun x inside => List.mem_cons_of_mem _ (List.mem_append_left _ inside))
      exact .binary assigns leftKept rightKept
  | call callee arguments =>
    apply Kept.call callee
    apply kept_all arguments
    intro e member
    apply names.part
    intro x inside
    exact List.mem_cons_of_mem _ (Expr.mem_partsAll.mpr ⟨e, member, inside⟩)

theorem kept_all (es : List Expr) (names : ∀ e ∈ es, e.AssignsNames) : ∀ e ∈ es, Kept e := by
  cases es with
  | nil => exact fun e member => absurd member List.not_mem_nil
  | cons first others =>
    obtain ⟨firstNames, otherNames⟩ := List.forall_mem_cons.mp names
    exact List.forall_mem_cons.mpr ⟨kept first firstNames, kept_all others otherNames⟩
end

/-- How many operands stand in one another where they do so deepest: parentheses, calls and prefix
operators each add one. -/
def nesting (tokens : List Token) : Nat := Place.deepest ⟨0, [], 0, true⟩ tokens

theorem parse_print {e : Expr} (names : e.AssignsNames)
    (printed : tokens.map Token.content = e.print) {stop : Token} (stops : stop.is .delimiter ";") :
    ∃ first ∈ tokens.head?,
      (parse (tokens ++ [stop]) = ⟨[.expression e first.line], []⟩ ↔
        nesting tokens ≤ maxNesting) := by
  have fresh : Place.Fresh ⟨0, [], 0, true⟩ := ⟨rfl, rfl⟩
  obtain ⟨levels, binds⟩ := kept e names tokens printed
  obtain ⟨first, more, rfl, _⟩ := (binds.whole.enough levels (Nat.le_refl _)).begins
  refine ⟨first, rfl, ?_, ?_⟩
  next =>
    intro parsed
    have spelled := expression_of_script (script_of_parseWithin parsed)
    have bound := (spelled.stays fresh).bound
    simpa [nesting] using bound
  next =>
    intro within
    have deep := binds.whole.deep _ fresh
    have fits : levels ≤ maxNesting := by
      rw [nesting] at within
      omega
    apply parse_of_script
    rw [← List.append_nil (_ ++ [stop])]
    exact .cons (.expression (binds.whole.enough maxNesting fits) stops) .nil

-- Over two lines: `a = b - (c - -f(1, k = x))`
def differenceTokens : List Token :=
  [.ofLexeme .identifier "a" 3, .ofLexeme .assign "=" 3, .ofLexeme .identifier "b" 3,
    .ofLexeme .operator "-" 3, .ofLexeme .delimiter "(" 3, .ofLexeme .identifier "c" 3,
    .ofLexeme .operator "-" 4, .ofLexeme .operator "-" 4, .ofLexeme .identifier "f" 4,
    .ofLexeme .delimiter "(" 4, ⟨.number, .number (.int 1), 4⟩, .ofLexeme .delimiter "," 4,
    .ofLexeme .identifier "k" 4, .ofLexeme .assign "=" 4, .ofLexeme .identifier "x" 4,
    .ofLexeme .delimiter ")" 4, .ofLexeme .delimiter ")" 4]

def difference : Expr :=
  .binary .assign (.identifier "a") (.binary .subtract (.identifier "b")
    (.binary .subtract (.identifier "c") (.unary .minus (.call "f" [.number (.int 1),
      .binary .assign (.identifier "k") (.identifier "x")]))))

theorem parse_print_subtractions :
    parse (differenceTokens ++ [.ofLexeme .delimiter ";" 4]) =
      ⟨[.expression difference 3], []⟩ := by
  have names : difference.AssignsNames := by
    intro target value member
    simp [difference, Expr.parts, Expr.inner, Expr.partsAll] at member
    obtain ⟨rfl, -⟩ | ⟨rfl, -⟩ := member
    next => exact ⟨"a", rfl⟩
    next => exact ⟨"k", rfl⟩
  have printed : differenceTokens.map Token.content = difference.print := rfl
  have stops : (Token.ofLexeme .delimiter ";" 4).is .delimiter ";" := rfl
  obtain ⟨_, ⟨⟩, iff⟩ := parse_print names printed stops
  exact iff.mpr (by decide)

end Grammar

end DrawScript
