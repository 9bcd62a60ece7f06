import DrawScript.Proofs.Grammar.Acceptance
import DrawScript.Proofs.Grammar.Entailment
import DrawScript.Proofs.Grammar.Levels
import DrawScript.Proofs.Script.Height

set_option autoImplicit false

namespace DrawScript.Grammar

theorem Operand.height_le (room : Nat) :
    Entails (fun _ => True) (Operand room) fun e => e.height 0 ≤ room := by
  induction room with
  | zero => exact fun _ _ impossible => impossible.elim
  | succ room ih =>
    have expressions := Assignment.entails (fun low lowRight => Nat.max_le.mpr ⟨low, lowRight⟩) ih
    intro tokens e form _
    cases form with
    | signed _ inner => exact Nat.succ_le_succ (ih.all inner)
    | parenthesis _ inner _ => exact Nat.le_succ_of_le (expressions.all inner)
    | call _ items =>
      have low := (Parenthesized.entails expressions).all items
      exact Nat.succ_le_succ (Expr.highest_le.mpr low)
    | identifier | number | string | boolean => exact Nat.succ_le_succ (Nat.zero_le room)

theorem Expression.height_lt (room : Nat) :
    Entails (fun _ => True) (Expression room) fun e => e.height 0 < room + 1 := by
  intro tokens e expression fit
  have low := Assignment.entails (fun low lowRight => Nat.max_le.mpr ⟨low, lowRight⟩)
    (Operand.height_le room) tokens e expression fit
  exact Nat.lt_succ_of_le low

section

variable {bound : Nat} {tokens : List Token} {expression : Spelling Expr}
  (expressions : Entails (fun _ => True) expression fun e => e.height 0 < bound)

include expressions

theorem Condition.height_le {e : Expr} (condition : Condition expression tokens e) :
    e.height 0 ≤ bound :=
  Nat.le_of_lt ((Condition.entails expressions).all condition)

theorem Optional.height_le {found : Option Expr} (optional : Optional expression tokens found) :
    Expr.heightOf 0 found ≤ bound := by
  cases optional with
  | none => exact Nat.zero_le bound
  | some present => exact Nat.le_of_lt (expressions.all present)

theorem Parenthesized.highest_le {es : List Expr} (items : Parenthesized expression tokens es) :
    Expr.highest 0 es ≤ bound := by
  have low := (Parenthesized.entails expressions).all items
  exact Expr.highest_le.mpr fun e member => Nat.le_of_lt (low e member)

theorem VarDeclaration.inside_lt {s : Statement}
    (declared : VarDeclaration expression tokens s) : s.inside 0 < bound := by
  obtain ⟨_, _, _, _, value⟩ := declared
  exact expressions.all value

theorem ForInitial.inside_le {initial : Option Statement}
    (starts : ForInitial expression tokens initial) :
    Statement.insideInitial 0 initial ≤ bound := by
  cases starts with
  | none => exact Nat.zero_le bound
  | var declared => exact declared.inside_lt expressions
  | expression plain => exact expressions.all plain

variable {block : Spelling (Block Statement)}
  (blocks : ∀ tokens body, block tokens body → Statement.insideBlock 0 body ≤ bound)

include blocks

theorem IfElse.inside_le {s : Statement} (chain : IfElse expression block tokens s) :
    Statement.isLink [s] ∧ s.inside 0 ≤ bound := by
  induction chain with
  | plain _ tested first =>
    have low := tested.height_le expressions
    exact ⟨rfl, Nat.max_le.mpr ⟨low, Nat.max_le.mpr ⟨blocks _ _ first, Nat.zero_le bound⟩⟩⟩
  | otherwise _ tested first _ second =>
    have low := tested.height_le expressions
    have lowElse := Statement.insideOtherwise_block (blocks _ _ second)
    exact ⟨rfl, Nat.max_le.mpr ⟨low, Nat.max_le.mpr ⟨blocks _ _ first, lowElse⟩⟩⟩
  | @elseIf _ separator _ _ _ _ _ link _ tested first _ _ ih =>
    -- A link counts nothing, so a chain is no higher than the highest of its links.
    have low := tested.height_le expressions
    have lowElse : Statement.insideOtherwise 0 (some ⟨[link], separator.line⟩) ≤ bound :=
      Statement.insideOtherwise_link ih.1 ih.2
    exact ⟨rfl, Nat.max_le.mpr ⟨low, Nat.max_le.mpr ⟨blocks _ _ first, lowElse⟩⟩⟩

theorem StatementForm.inside_le {s : Statement}
    (form : StatementForm expression block tokens s) : s.inside 0 ≤ bound := by
  cases form with
  | var declared _ => exact Nat.le_of_lt (declared.inside_lt expressions)
  | cursor _ _ _ _ items _ => exact items.highest_le expressions
  | ifElse chain => exact (chain.inside_le expressions blocks).2
  | forLoop _ _ starts _ tested _ stepped _ repeated =>
    have low := Nat.max_le.mpr ⟨starts.inside_le expressions, tested.height_le expressions⟩
    exact Nat.max_le.mpr
      ⟨low, Nat.max_le.mpr ⟨stepped.height_le expressions, blocks _ _ repeated⟩⟩
  | whileLoop _ tested repeated =>
    exact Nat.max_le.mpr ⟨tested.height_le expressions, blocks _ _ repeated⟩
  | doWhile _ repeated _ tested _ =>
    exact Nat.max_le.mpr ⟨tested.height_le expressions, blocks _ _ repeated⟩
  | function _ _ _ run => exact blocks _ _ run
  | returnValue _ result _ => exact result.height_le expressions
  | copy _ taken _ _ put _ _ =>
    exact Nat.max_le.mpr ⟨taken.highest_le expressions, put.highest_le expressions⟩
  | animate _ _ left _ right _ repeated =>
    have low := Nat.max_le.mpr
      ⟨Nat.le_of_lt (expressions.all left), Nat.le_of_lt (expressions.all right)⟩
    exact Nat.max_le.mpr ⟨low, blocks _ _ repeated⟩
  | method _ _ _ items _ => exact items.highest_le expressions
  | block inner => exact blocks _ _ inner
  | expression plain _ => exact Nat.le_of_lt (expressions.all plain)
  | empty => exact Nat.zero_le bound

end

theorem MendedBlock.inside_le (room : Nat) :
    ∀ tokens body, MendedBlock room tokens body → Statement.insideBlock 0 body ≤ room + 1 := by
  induction room with
  | zero => exact fun _ _ impossible => impossible.elim
  | succ room ih =>
    rintro _ _ ⟨_, inner, _⟩
    have low := (Mended.entails fun _ _ form _ =>
      StatementForm.inside_le (Expression.height_lt room) ih form).all inner
    exact Statement.highest_le.mpr fun s member => Nat.succ_le_succ (low s member)

theorem parse_inside (tokens : List Token) :
    ∀ s ∈ (parse tokens).program, s.inside 0 ≤ maxNesting + 1 := by
  obtain ⟨taken, rest, rfl, mended⟩ := parse_mended tokens
  exact (Mended.entails fun _ _ form _ =>
    StatementForm.inside_le (Expression.height_lt maxNesting) (MendedBlock.inside_le maxNesting)
      form).all mended

theorem parse_height (tokens : List Token) (s : Statement) (member : s ∈ (parse tokens).program) :
    s.height 0 ≤ 102 ∧ ∀ n, s.ChainsWithin n → s.height 1 ≤ 102 * (n + 1) := by
  have low : s.height 0 ≤ 102 := Nat.succ_le_succ (parse_inside tokens s member)
  refine ⟨low, fun n within => ?_⟩
  calc
    s.height 1 ≤ s.height 0 * (n + 1) := Statement.height_le within
    _ ≤ 102 * (n + 1) := Nat.mul_le_mul_right _ low

-- Also in a program with an error: `a = b = -c; )`
theorem parse_height_rejected :
    ∃ tokens s, (parse tokens).errors ≠ [] ∧ s ∈ (parse tokens).program ∧ s.ChainsWithin 2 ∧
      s.height 0 ≤ 102 ∧ s.height 1 ≤ 306 := by
  let tokens : List Token :=
    [.ofLexeme .identifier "a" 1, .ofLexeme .assign "=" 1, .ofLexeme .identifier "b" 1,
      .ofLexeme .assign "=" 1, .ofLexeme .operator "-" 1, .ofLexeme .identifier "c" 1,
      .ofLexeme .delimiter ";" 1, .ofLexeme .delimiter ")" 1]
  let s : Statement := .expression (.binary .assign (.identifier "a")
    (.binary .assign (.identifier "b") (.unary .minus (.identifier "c")))) 1
  have parsed : parse tokens = ⟨[s], [⟨1, .expectedExpression (some ")")⟩]⟩ := rfl
  have member : s ∈ (parse tokens).program := by simp [parsed]
  have within : s.ChainsWithin 2 := by
    simp [s, Statement.ChainsWithin, Statement.OwnChainsWithin, Statement.walk, Statement.inner,
      Statement.chain, Statement.expressions, Expr.ChainsWithin, Expr.parts, Expr.inner, Expr.chain]
  obtain ⟨low, bounded⟩ := parse_height tokens s member
  exact ⟨tokens, s, by simp [parsed], member, within, low, bounded 2 within⟩

def assignedTokens : Nat → List Token
  | 0 => [.ofLexeme .identifier "a" 1]
  | n + 1 => .ofLexeme .identifier "a" 1 :: .ofLexeme .assign "=" 1 :: assignedTokens n

def assigned : Nat → Expr
  | 0 => .identifier "a"
  | n + 1 => .binary .assign (.identifier "a") (assigned n)

theorem height_assigned (n : Nat) : (assigned n).height 1 = n + 1 := by
  induction n with
  | zero => rfl
  | succ n ih =>
    simp only [assigned, Expr.height, ih]
    omega

theorem assigned_operand : Operand 100 [.ofLexeme .identifier "a" 1] (.identifier "a") :=
  OperandForm.identifier rfl

theorem assigned_spelled (n : Nat) : Expression 100 (assignedTokens n) (assigned n) := by
  induction n with
  | zero => exact .value (Tiered.single assigned_operand)
  | succ n ih => exact .assign (Tiered.single assigned_operand) rfl ih

theorem parse_assigned (n : Nat) :
    parse (assignedTokens n ++ [.ofLexeme .delimiter ";" 1]) =
      ⟨[.expression (assigned n) 1], []⟩ := by
  have sameLine : ∀ token ∈ assignedTokens n, token.line = 1 := by
    induction n with
    | zero => simp [assignedTokens, Token.ofLexeme]
    | succ n ih => simpa [assignedTokens, Token.ofLexeme] using ih
  exact parse_of_script (script_of_expression (assigned_spelled n) rfl sameLine)

def linkTokens : List Token :=
  [.ofLexeme .keyword "if" 1, .ofLexeme .delimiter "(" 1, .ofLexeme .identifier "a" 1,
    .ofLexeme .delimiter ")" 1, .ofLexeme .delimiter "\x7b" 1, .ofLexeme .delimiter "\x7d" 1]

def linkedTokens : Nat → List Token
  | 0 => linkTokens
  | n + 1 => linkTokens ++ .ofLexeme .keyword "else" 1 :: linkedTokens n

def linked : Nat → Statement
  | 0 => .ifElse (.identifier "a") ⟨[], 1⟩ none 1
  | n + 1 => .ifElse (.identifier "a") ⟨[], 1⟩ (some ⟨[linked n], 1⟩) 1

theorem isLink_linked (n : Nat) : Statement.isLink [linked n] := by cases n <;> rfl

theorem inside_linked (n : Nat) : (linked n).inside 1 = n + 1 := by
  induction n with
  | zero => rfl
  | succ n ih =>
    simp only [linked, Statement.inside, Expr.height, Statement.insideBlock,
      Statement.insideOtherwise, isLink_linked, Statement.highest, ih, if_true]
    omega

theorem expressions_linked (n : Nat) :
    ∀ t ∈ (linked n).walk, t.expressions = [.identifier "a"] := by
  induction n with
  | zero => simp [linked, Statement.walk, Statement.inner, Statement.walkBlock, Statement.walkAll,
      Statement.walkOtherwise, Statement.expressions]
  | succ n ih =>
    simpa [linked, Statement.walk, Statement.inner, Statement.walkBlock, Statement.walkAll,
      Statement.walkOtherwise, Statement.expressions] using ih

theorem linked_spelled (n : Nat) :
    IfElse (Expression 100) (BlockWithin 100) (linkedTokens n) (linked n) := by
  have isIf : (Token.ofLexeme .keyword "if" 1).is .keyword "if" := rfl
  have isElse : (Token.ofLexeme .keyword "else" 1).is .keyword "else" := rfl
  have opens : (Token.ofLexeme .delimiter "(" 1).is .delimiter "(" := rfl
  have closes : (Token.ofLexeme .delimiter ")" 1).is .delimiter ")" := rfl
  have opensBlock : (Token.ofLexeme .delimiter "\x7b" 1).is .delimiter "\x7b" := rfl
  have closesBlock : (Token.ofLexeme .delimiter "\x7d" 1).is .delimiter "\x7d" := rfl
  have tested := Condition.parenthesis opens (assigned_spelled 0) closes
  have braces : BlockWithin 100 _ _ := Braced.braces opensBlock .nil closesBlock
  induction n with
  | zero => exact .plain isIf tested braces
  | succ n ih => exact .elseIf isIf tested braces isElse ih

theorem parse_linked (n : Nat) : parse (linkedTokens n) = ⟨[linked n], []⟩ := by
  apply parse_of_script
  rw [← List.append_nil (linkedTokens n)]
  exact .cons (.ifElse (linked_spelled n)) .nil

theorem parse_height_unbounded :
    (¬∃ bound, ∀ tokens e line, parse tokens = ⟨[.expression e line], []⟩ →
      e.height 1 ≤ bound) ∧
    ¬∃ bound, ∀ tokens s, parse tokens = ⟨[s], []⟩ →
      (∀ t ∈ s.walk, ∀ e ∈ t.expressions, e.height 1 = 1) → s.height 1 ≤ bound := by
  constructor
  next =>
    intro ⟨bound, low⟩
    have high := low _ _ _ (parse_assigned bound)
    rw [height_assigned] at high
    omega
  next =>
    intro ⟨bound, low⟩
    have high := low _ _ (parse_linked bound) fun t member e inside => by
      rw [expressions_linked bound t member, List.mem_singleton] at inside
      rw [inside, Expr.height]
    rw [Statement.height, inside_linked] at high
    omega

end DrawScript.Grammar
