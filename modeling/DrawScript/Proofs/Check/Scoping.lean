import DrawScript.Check.Program
import DrawScript.Proofs.Check.Table

set_option autoImplicit false

namespace DrawScript.Check

open Catalogue Lexical
open SymbolTable (Shows)

variable {table : SymbolTable} {env inside : Environment}

theorem constantArguments_eq (name : String) (arguments : List Expr) (line : Nat) (needed : Bool) :
    (if needed then constantArguments name arguments line else []) =
      Lexical.constants needed name arguments line := by
  cases needed with
  | false => simp [Lexical.constants, require]
  | true => simp [Lexical.constants, require, constantArguments]

theorem drawCall_eq (name : String) (arguments : List Expr) (line : Nat) :
    drawCall name arguments line = Lexical.call name arguments line := by
  rw [drawCall, Lexical.call]
  cases drawFunction? name with
  | none => rfl
  | some function => simp only [constantArguments_eq, require]

theorem target_eq (op : BinaryOp) (left : Expr) (line : Nat) :
    target op left line = Lexical.assignment op left line := by
  -- Only an assignment to a name asks for anything.
  cases op <;> cases left <;> try rfl
  exact (ite_not ..).symm

mutual
theorem expression_eq (shown : Shows table env) (line : Nat) :
    ∀ e, expression table line e = Lexical.expression env line e
  | .call name arguments => by
    rw [expression, Lexical.expression, drawCall_eq, expressions_eq shown line arguments]
  | .binary op left right => by
    rw [expression, Lexical.expression, target_eq, expression_eq shown line left,
      expression_eq shown line right, List.append_assoc]
  | .unary _ operand => by
    rw [expression, Lexical.expression, expression_eq shown line operand]
  | .identifier name => by
    simp [expression, Lexical.expression, require, shown.lookup, Option.isSome_iff_ne_none]
  | .number _ | .string _ | .boolean _ => rfl

theorem expressions_eq (shown : Shows table env) (line : Nat) :
    ∀ es, expressions table line es = Lexical.expressions env line es
  | [] => rfl
  | e :: es => by
    rw [expressions, Lexical.expressions, expression_eq shown line e, expressions_eq shown line es]
end

theorem optional_eq (shown : Shows table env) (line : Nat) (e : Option Expr) :
    optional table line e = Lexical.optional env line e := by
  cases e with
  | none => rfl
  | some e => simp [optional, Lexical.optional, Lexical.expressions, expression_eq shown]

theorem method_eq (shown : Shows table env) (cursor name : String) (arguments : List Expr)
    (line : Nat) :
    method table cursor name arguments line = Lexical.method env cursor name arguments line := by
  rw [method, Lexical.method, shown.lookup]
  cases env.lookup cursor with
  | none => rfl
  | some kind =>
    cases kind with
    | number | function => rfl
    | cursor =>
      cases cursorMethod? name with
      | none => rfl
      | some method => simp only [constantArguments_eq, require]

/-- From a table that shows `env`, the walk finds these errors and then shows `later`. -/
def Follows (walk : Checker) (env : Environment) (errors : List CheckError)
    (later : Environment) : Prop :=
  ∀ t, Shows t env → ∃ u, walk.run t = pure (errors, u) ∧ Shows u later

theorem sequence_follows {first second : Checker} {errors others : List CheckError}
    {middle later : Environment} (before : Follows first env errors middle)
    (rest : Follows second middle others later) :
    Follows (do return (← first) ++ (← second)) env (errors ++ others) later := by
  intro t shown
  obtain ⟨u, run, shown⟩ := before t shown
  obtain ⟨v, run', shown⟩ := rest u shown
  exact ⟨v, by simp [run, run'], shown⟩

theorem declare_follows (env : Environment) (kind : SymbolKind) (line : Nat) (name : String) :
    Follows (declare kind line name) env (declaration env kind line name)
      (env.declare kind name) := by
  intro t shown
  by_cases builtin : isSurfaceName name
  next =>
    refine ⟨t, ?_, ?_⟩
    next => simp [declare, declaration, require, Environment.Taken, builtin]
    next => simpa [Environment.declare, Environment.Taken, builtin] using shown
  next =>
    by_cases member : name ∈ env.innermost
    next =>
      obtain ⟨existing, refused⟩ := shown.declare_error kind member
      refine ⟨t, ?_, ?_⟩
      next => simp [declare, declaration, require, Environment.Taken, builtin, member, refused]
      next => simpa [Environment.declare, Environment.Taken, member] using shown
    next =>
      obtain ⟨u, accepted, shown'⟩ := shown.declare_ok kind member
      refine ⟨u, ?_, ?_⟩
      next => simp [declare, declaration, require, Environment.Taken, builtin, member, accepted]
      next => simpa [Environment.declare, Environment.Taken, builtin, member] using shown'

theorem declareAll_follows (env : Environment) (kind : SymbolKind) (line : Nat)
    (names : List String) :
    Follows (declareAll kind line names) env (declarations env kind line names)
      (env.declareAll kind names) := by
  induction names generalizing env with
  | nil =>
    intro t shown
    exact ⟨t, rfl, shown⟩
  | cons name names ih => exact sequence_follows (declare_follows env kind line name) (ih _)

theorem enclosed_follows {inner : Checker} {errors : List CheckError} {later : Environment}
    (follows : Follows inner env.opened errors later)
    (around : later.outer = env.opened.outer) : Follows (enclosed inner) env errors env := by
  -- What was declared in the scope is forgotten when it is left.
  intro t shown
  obtain ⟨u, run, shown'⟩ := follows t.enter shown.enter
  obtain ⟨innermost, outer⟩ := later
  cases around
  exact ⟨u.leave, by simp [enclosed, run], shown'.leave⟩

@[simp] theorem declare_outer (env : Environment) (kind : SymbolKind) (name : String) :
    (env.declare kind name).outer = env.outer := by
  rw [Environment.declare]
  split <;> rfl

@[simp] theorem declareAll_outer (env : Environment) (kind : SymbolKind) (names : List String) :
    (env.declareAll kind names).outer = env.outer := by
  induction names generalizing env with
  | nil => rfl
  | cons name names ih => exact (ih _).trans (declare_outer env kind name)

@[simp] theorem after_outer (env : Environment) (s : Statement) :
    (after env s).outer = env.outer := by
  cases s <;> simp [after]

@[simp] theorem foldl_after_outer (env : Environment) (ss : List Statement) :
    (ss.foldl after env).outer = env.outer := by
  induction ss generalizing env with
  | nil => rfl
  | cons s ss ih => exact (ih _).trans (after_outer env s)

mutual
theorem statement_follows (env : Environment) :
    ∀ s, Follows (statement s) env (Lexical.statement env s) (after env s)
  | .var name _ initial line => by
    intro t shown
    obtain ⟨u, declared, shown'⟩ := declare_follows env .number line name t shown
    exact ⟨u, by simp [statement, Lexical.statement, expression_eq shown, declared], shown'⟩
  | .cursor name arguments line => by
    intro t shown
    obtain ⟨u, declared, shown'⟩ := declare_follows env .cursor line name t shown
    exact ⟨u, by simp [statement, Lexical.statement, expressions_eq shown, cursorArity, require,
      declared], shown'⟩
  | .function name parameters body line => by
    -- The name is declared outside, so the body may call it; its parameters belong to the inside.
    have inner := sequence_follows
      (declareAll_follows (env.declare .function name).opened .number line parameters)
      (block_follows _ body)
    rw [statement, Lexical.statement, List.append_assoc]
    exact sequence_follows (declare_follows env .function line name)
      (enclosed_follows inner (by simp))
  | .ifElse condition thenBlock elseBlock line => by
    intro t shown
    obtain ⟨u, first, shown'⟩ := scope_follows env thenBlock t shown
    obtain ⟨v, second, shown''⟩ := otherwise_follows env elseBlock u shown'
    exact ⟨v, by simp [statement, Lexical.statement, expression_eq shown, first, second], shown''⟩
  | .forLoop initial condition increment body line => by
    -- The head has a scope of its own, around that of the body.
    rw [statement, Lexical.statement]
    apply enclosed_follows
    next =>
      intro t shown
      obtain ⟨u, first, shown'⟩ := initially_follows env initial t shown
      obtain ⟨v, repeated, shown''⟩ := scope_follows (header env initial) body u shown'
      exact ⟨v, by simp [first, optional_eq shown', repeated], shown''⟩
    next => cases initial <;> simp [header]
  | .whileLoop condition body line => by
    intro t shown
    obtain ⟨u, repeated, shown'⟩ := scope_follows env body t shown
    exact ⟨u, by simp [statement, Lexical.statement, expression_eq shown, repeated], shown'⟩
  | .doWhile body condition line => by
    intro t shown
    -- The condition comes after the body, so another table answers for its names.
    obtain ⟨u, repeated, shown'⟩ := scope_follows env body t shown
    exact ⟨u, by simp [statement, Lexical.statement, repeated, expression_eq shown'], shown'⟩
  | .returnValue value line => by
    intro t shown
    exact ⟨t, by simp [statement, Lexical.statement, optional_eq shown], shown⟩
  | .copy source destination line => by
    intro t shown
    exact ⟨t, by simp [statement, Lexical.statement, expressions_eq shown], shown⟩
  | .animate first second body line => by
    intro t shown
    obtain ⟨u, repeated, shown'⟩ := scope_follows env body t shown
    exact ⟨u, by simp [statement, Lexical.statement, expression_eq shown, repeated], shown'⟩
  | .method cursor name arguments line => by
    intro t shown
    exact ⟨t, by simp [statement, Lexical.statement, expressions_eq shown, method_eq shown], shown⟩
  | .block body => by
    rw [statement, Lexical.statement]
    exact scope_follows env body
  | .expression value line => by
    intro t shown
    exact ⟨t, by simp [statement, Lexical.statement, expression_eq shown], shown⟩
  | .empty _ => fun t shown => ⟨t, rfl, shown⟩

theorem scope_follows (env : Environment) :
    ∀ b, Follows (enclosed (blockBody b)) env (Lexical.block env.opened b) env
  | ⟨body, _⟩ => enclosed_follows (statements_follows env.opened body) (by simp)

theorem otherwise_follows (env : Environment) :
    ∀ b, Follows (otherwise b) env (Lexical.otherwise env b) env
  | none => fun t shown => ⟨t, rfl, shown⟩
  | some body => scope_follows env body

theorem initially_follows (env : Environment) :
    ∀ s, Follows (forInitial s) env.opened (Lexical.initially env.opened s) (header env s)
  | none => fun t shown => ⟨t, rfl, shown⟩
  | some initial => statement_follows env.opened initial

theorem block_follows (env : Environment) :
    ∀ b, Follows (blockBody b) env (Lexical.block env b) (b.statements.foldl after env)
  | ⟨body, _⟩ => statements_follows env body

theorem statements_follows (env : Environment) :
    ∀ ss, Follows (statements ss) env (Lexical.statements env ss) (ss.foldl after env)
  | [] => fun t shown => ⟨t, rfl, shown⟩
  | s :: ss => sequence_follows (statement_follows env s) (statements_follows (after env s) ss)
end

end DrawScript.Check

namespace DrawScript

theorem Lexical.check_eq_statements (p : Program) : p.check = statements .outermost p := by
  obtain ⟨_, run, _⟩ := Check.statements_follows .outermost p {} SymbolTable.Shows.initial
  rw [Program.check, run]
  rfl

theorem Check.check_eq_lexical (p : Program) : p.check = Lexical.check p := by
  rw [Lexical.check_eq_statements, Lexical.check]

end DrawScript
