import DrawScript.Proofs.Check.Accepted

set_option autoImplicit false

namespace DrawScript

def Statement.declared? : Statement → Option (String × SymbolKind)
  | .var name _ _ _ => some (name, .number)
  | .cursor name _ _ => some (name, .cursor)
  | .function name _ _ _ => some (name, .function)
  | _ => none

namespace Lexical

open Catalogue

variable {env wider : Environment} {line : Nat}

namespace Environment

def Sees (env : Environment) (name : String) : Prop := isSurfaceName name ∨ env.lookup name ≠ none

instance (env : Environment) (name : String) : Decidable (env.Sees name) :=
  inferInstanceAs (Decidable (_ ∨ _))

def unseen (env : Environment) (line : Nat) (names : List String) : List CheckError :=
  names.flatMap fun name => require (env.Sees name) line (.undeclared name)

theorem unseen_append (names others : List String) :
    env.unseen line (names ++ others) = env.unseen line names ++ env.unseen line others :=
  List.flatMap_append

@[simp] theorem unseen_eq_nil {names : List String} :
    env.unseen line names = [] ↔ ∀ name ∈ names, env.Sees name := by
  simp [unseen]

@[simp] theorem lookup_opened (name : String) : env.opened.lookup name = env.lookup name := by
  rw [lookup, opened, List.findSome?_cons, Finmap.lookup_empty]
  rfl

theorem lookup_of_mem {name : String} (member : name ∈ env.innermost) :
    env.lookup name = env.innermost.lookup name := by
  obtain ⟨kind, known⟩ := Finmap.mem_iff.mp member
  simp [lookup, known]

theorem mem_innermost_iff (outermost : env.outer = []) {name : String} :
    name ∈ env.innermost ↔ env.lookup name ≠ none := by
  have alone : env.lookup name = env.innermost.lookup name := by
    rw [lookup, outermost, List.findSome?_cons]
    cases env.innermost.lookup name <;> rfl
  rw [alone, Finmap.mem_iff, ← Option.isSome_iff_exists, Option.isSome_iff_ne_none]

theorem innermost_declare {name : String} (kind : SymbolKind) (free : ¬ env.Taken name) :
    (env.declare kind name).innermost = env.innermost.insert name kind := by
  rw [declare, if_neg free]

theorem lookup_declare {name : String} (kind : SymbolKind) (free : ¬ env.Taken name)
    (other : String) :
    (env.declare kind name).lookup other =
      if other = name then some kind else env.lookup other := by
  rw [lookup, innermost_declare kind free, Check.declare_outer, List.findSome?_cons]
  by_cases same : other = name
  next =>
    subst same
    rw [Finmap.lookup_insert, if_pos rfl]
  next =>
    rw [Finmap.lookup_insert_of_ne _ same, if_neg same]
    rfl

def Within (env wider : Environment) : Prop :=
  ∀ name kind, env.lookup name = some kind → wider.lookup name = some kind

/-- Scopes around the innermost one may know more. -/
structure Below (env wider : Environment) : Prop where
  innermost : wider.innermost = env.innermost
  within : env.Within wider

theorem Within.sees (within : env.Within wider) {name : String} (seen : env.Sees name) :
    wider.Sees name := by
  refine seen.imp_right fun known => ?_
  obtain ⟨kind, found⟩ := Option.ne_none_iff_exists'.mp known
  rw [within name kind found]
  exact Option.some_ne_none kind

theorem Within.declare (within : env.Within wider) (kind : SymbolKind) {name : String}
    (free : ¬ env.Taken name) (stillFree : ¬ wider.Taken name) :
    (env.declare kind name).Within (wider.declare kind name) := by
  intro other otherKind known
  rw [lookup_declare kind free] at known
  rw [lookup_declare kind stillFree]
  split at known
  next same => rwa [if_pos same]
  next different =>
    rw [if_neg different]
    exact within other otherKind known

theorem Within.opened (within : env.Within wider) : env.opened.Below wider.opened where
  innermost := rfl
  within := by
    intro name kind known
    rw [lookup_opened] at known ⊢
    exact within name kind known

theorem Below.taken (below : env.Below wider) (name : String) :
    wider.Taken name ↔ env.Taken name := by
  rw [Taken, Taken, below.innermost]

theorem Below.declare (below : env.Below wider) (kind : SymbolKind) (name : String) :
    (env.declare kind name).Below (wider.declare kind name) := by
  by_cases taken : env.Taken name
  next =>
    rw [Environment.declare, Environment.declare, if_pos taken,
      if_pos ((below.taken name).mpr taken)]
    exact below
  next =>
    have stillFree : ¬ wider.Taken name := fun found => taken ((below.taken name).mp found)
    refine ⟨?_, below.within.declare kind taken stillFree⟩
    rw [innermost_declare kind taken, innermost_declare kind stillFree, below.innermost]

theorem Below.declareAll (below : env.Below wider) (kind : SymbolKind) (names : List String) :
    (env.declareAll kind names).Below (wider.declareAll kind names) := by
  induction names generalizing env wider with
  | nil => exact below
  | cons name names ih => exact ih (below.declare kind name)

end Environment

theorem after_eq (s : Statement) :
    after env s = s.declared?.elim env fun found => env.declare found.2 found.1 := by
  cases s <;> rfl

theorem Environment.Below.after (below : env.Below wider) (s : Statement) :
    (after env s).Below (after wider s) := by
  rw [after_eq, after_eq]
  cases s.declared? with
  | none => exact below
  | some found => exact below.declare found.2 found.1

theorem Environment.Within.header (within : env.Within wider) (initial : Option Statement) :
    (header env initial).Below (header wider initial) := by
  cases initial with
  | none => exact within.opened
  | some initial => exact within.opened.after initial

mutual
theorem expression_elsewhere (other : Environment) :
    ∀ e, expression env line e = [] → expression other line e = other.unseen line e.names
  | .call name arguments => by
    intro clean
    rw [expression, List.append_eq_nil_iff] at clean
    rw [expression, clean.1, expressions_elsewhere other arguments clean.2, Expr.names_call]
    rfl
  | .binary op left right => by
    intro clean
    simp only [expression, List.append_eq_nil_iff] at clean
    obtain ⟨own, first, second⟩ := clean
    rw [expression, own, expression_elsewhere other left first,
      expression_elsewhere other right second, Expr.names_binary, Environment.unseen_append]
    rfl
  | .unary _ operand => by
    intro clean
    rw [expression] at clean
    rw [expression, expression_elsewhere other operand clean, Expr.names_unary]
  | .identifier name => by
    intro _
    rw [expression, Expr.names_identifier, Environment.unseen, List.flatMap_singleton]
    rfl
  | .number _ | .string _ | .boolean _ => fun _ => rfl

theorem expressions_elsewhere (other : Environment) :
    ∀ es, expressions env line es = [] →
      expressions other line es = other.unseen line (es.flatMap Expr.names)
  | [] => fun _ => rfl
  | e :: es => by
    intro clean
    rw [expressions, List.append_eq_nil_iff] at clean
    rw [expressions, expression_elsewhere other e clean.1, expressions_elsewhere other es clean.2,
      List.flatMap_cons, Environment.unseen_append]
end

theorem expression_widen (within : env.Within wider) {e : Expr}
    (clean : expression env line e = []) : expression wider line e = [] := by
  have seen := clean
  rw [expression_elsewhere env e clean, Environment.unseen_eq_nil] at seen
  rw [expression_elsewhere wider e clean, Environment.unseen_eq_nil]
  exact fun name member => within.sees (seen name member)

theorem expressions_widen (within : env.Within wider) {es : List Expr}
    (clean : expressions env line es = []) : expressions wider line es = [] := by
  have seen := clean
  rw [expressions_elsewhere env es clean, Environment.unseen_eq_nil] at seen
  rw [expressions_elsewhere wider es clean, Environment.unseen_eq_nil]
  exact fun name member => within.sees (seen name member)

theorem method_widen (within : env.Within wider) {cursor name : String} {arguments : List Expr}
    (clean : method env cursor name arguments line = []) :
    method wider cursor name arguments line = [] := by
  rw [method] at clean
  split at clean
  next => cases clean
  next => cases clean
  next => cases clean
  next => cases clean
  next spec known found =>
    rw [method, within cursor .cursor known, found]
    exact clean

theorem declarations_congr (same : wider.innermost = env.innermost) (kind : SymbolKind)
    (names : List String) :
    declarations wider kind line names = declarations env kind line names := by
  induction names generalizing env wider with
  | nil => rfl
  | cons name names ih =>
    have taken : wider.Taken name ↔ env.Taken name := by
      rw [Environment.Taken, Environment.Taken, same]
    have next : (wider.declare kind name).innermost = (env.declare kind name).innermost := by
      simp only [Environment.declare, taken]
      split
      next => exact same
      next => rw [same]
    simp only [declarations, declaration, taken, ih next]

theorem free_of_clean {s : Statement} (clean : statement env s = []) {name : String}
    {kind : SymbolKind} (declared : s.declared? = some (name, kind)) : ¬ env.Taken name := by
  cases s with
  | var | cursor =>
    cases declared
    simp only [statement, List.append_eq_nil_iff, declaration, require_eq_nil] at clean
    exact clean.2
  | function =>
    cases declared
    simp only [statement, List.append_eq_nil_iff, declaration, require_eq_nil] at clean
    exact clean.1.1
  | _ => cases declared

mutual
theorem statement_widen {env wider : Environment} (within : env.Within wider) :
    ∀ s : Statement, (∀ name kind, s.declared? = some (name, kind) → ¬ wider.Taken name) →
      statement env s = [] → statement wider s = []
  | .var name type initial line => by
    intro free clean
    rw [statement, List.append_eq_nil_iff] at clean
    rw [statement, expression_widen within clean.1, declaration, List.nil_append, require_eq_nil]
    exact free name .number rfl
  | .cursor name arguments line => by
    intro free clean
    simp only [statement, List.append_eq_nil_iff] at clean
    rw [statement, expressions_widen within clean.1.1, clean.1.2, declaration, List.nil_append,
      List.nil_append, require_eq_nil]
    exact free name .cursor rfl
  | .function name parameters body line => by
    intro free clean
    have owned : ¬ env.Taken name := free_of_clean clean rfl
    have stillFree : ¬ wider.Taken name := free name .function rfl
    simp only [statement, List.append_eq_nil_iff] at clean
    have inside := (within.declare .function owned stillFree).opened
    rw [statement, declarations_congr inside.innermost, clean.1.2,
      block_widen (inside.declareAll .number parameters) body clean.2]
    simpa [declaration] using stillFree
  | .ifElse condition thenBlock elseBlock line => by
    intro _ clean
    simp only [statement, List.append_eq_nil_iff] at clean ⊢
    exact ⟨⟨expression_widen within clean.1.1, block_widen within.opened thenBlock clean.1.2⟩,
      otherwise_widen within elseBlock clean.2⟩
  | .forLoop initial condition increment body line => by
    intro _ clean
    simp only [statement, List.append_eq_nil_iff] at clean ⊢
    have head := within.header initial
    exact ⟨⟨⟨initially_widen within.opened initial clean.1.1.1,
      expressions_widen head.within clean.1.1.2⟩, expressions_widen head.within clean.1.2⟩,
      block_widen head.within.opened body clean.2⟩
  | .whileLoop condition body line => by
    intro _ clean
    simp only [statement, List.append_eq_nil_iff] at clean ⊢
    exact ⟨expression_widen within clean.1, block_widen within.opened body clean.2⟩
  | .doWhile body condition line => by
    intro _ clean
    simp only [statement, List.append_eq_nil_iff] at clean ⊢
    exact ⟨block_widen within.opened body clean.1, expression_widen within clean.2⟩
  | .returnValue value line => fun _ => expressions_widen within
  | .copy source destination line => by
    intro _ clean
    simp only [statement, List.append_eq_nil_iff] at clean ⊢
    exact ⟨expressions_widen within clean.1, expressions_widen within clean.2⟩
  | .animate first second body line => by
    intro _ clean
    simp only [statement, List.append_eq_nil_iff] at clean ⊢
    exact ⟨⟨expression_widen within clean.1.1, expression_widen within clean.1.2⟩,
      block_widen within.opened body clean.2⟩
  | .method cursor name arguments line => by
    intro _ clean
    simp only [statement, List.append_eq_nil_iff] at clean ⊢
    exact ⟨expressions_widen within clean.1, method_widen within clean.2⟩
  | .block body => fun _ => block_widen within.opened body
  | .expression value line => fun _ => expression_widen within
  | .empty _ => fun _ _ => rfl

theorem block_widen {env wider : Environment} (below : env.Below wider) :
    ∀ b, block env b = [] → block wider b = []
  | ⟨body, _⟩ => statements_widen below body

theorem otherwise_widen {env wider : Environment} (within : env.Within wider) :
    ∀ b, otherwise env b = [] → otherwise wider b = []
  | none => fun _ => rfl
  | some body => block_widen within.opened body

theorem initially_widen {env wider : Environment} (below : env.Below wider) :
    ∀ s, initially env s = [] → initially wider s = []
  | none => fun _ => rfl
  | some initial => by
    intro clean
    refine statement_widen below.within initial (fun name kind declared => ?_) clean
    rw [below.taken]
    exact free_of_clean clean declared

theorem statements_widen {env wider : Environment} (below : env.Below wider) :
    ∀ ss, statements env ss = [] → statements wider ss = []
  | [] => fun _ => rfl
  | s :: ss => by
    intro clean
    rw [statements, List.append_eq_nil_iff] at clean
    rw [statements, statements_widen (below.after s) ss clean.2, List.append_nil]
    refine statement_widen below.within s (fun name kind declared => ?_) clean.1
    rw [below.taken]
    exact free_of_clean clean.1 declared
end

end Lexical

end DrawScript
