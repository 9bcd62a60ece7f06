import DrawScript.Proofs.Check.Lexical

set_option autoImplicit false

namespace DrawScript.SymbolTable

open Lexical

variable {t u : SymbolTable} {env : Environment} {start : Option Nat} {scopes : List Names}

/-- Numbers fall on the way out, so the scopes around one were all opened before it. -/
inductive Path (t : SymbolTable) : Option Nat → List Names → Prop
  | outside : Path t none []
  | within {id : Nat} {scope : Scope} {names : Names} {outer : List Names}
      (found : t.scopes[id]? = some scope)
      (same : ∀ name, scope.symbols.lookup name = names.lookup name)
      (lower : ∀ parent ∈ scope.parent, parent < id) (rest : Path t scope.parent outer) :
      Path t (some id) (names :: outer)

theorem Path.lookup (path : Path t start scopes) (name : String) {bound : Nat}
    (enough : ∀ id ∈ start, id < bound) :
    t.lookupFrom name bound start = scopes.findSome? (Finmap.lookup name) := by
  induction path generalizing bound with
  | outside => cases bound <;> rfl
  | @within id scope names outer found same lower _ ih =>
    -- A scope uses up one step of the bound, and its parent has a smaller number.
    have positive : id < bound := enough id rfl
    obtain ⟨bound, rfl⟩ : ∃ n, bound = n + 1 := ⟨bound - 1, by omega⟩
    have remaining : ∀ parent ∈ scope.parent, parent < bound := by
      intro parent isParent
      have := lower parent isParent
      omega
    simp only [lookupFrom, found, same, List.findSome?_cons]
    cases names.lookup name with
    | some kind => rfl
    | none => exact ih remaining

theorem Path.transfer (path : Path t start scopes) {bound : Nat} (below : ∀ id ∈ start, id < bound)
    (agree : ∀ id < bound, u.scopes[id]? = t.scopes[id]?) : Path u start scopes := by
  -- Parents have smaller numbers, so the path never leaves the scopes on which the tables agree.
  induction path with
  | outside => exact .outside
  | @within id scope names outer found same lower _ ih =>
    have inside : id < bound := below id rfl
    apply Path.within _ same lower
    next =>
      apply ih
      intro parent isParent
      have := lower parent isParent
      omega
    next => rw [agree id inside, found]

def Shows (t : SymbolTable) (env : Environment) : Prop :=
  Path t (some t.current) (env.innermost :: env.outer)

theorem Shows.current_lt (shown : Shows t env) : t.current < t.scopes.size := by
  cases shown with
  | within found _ _ _ => exact (Array.getElem?_eq_some_iff.mp found).1

theorem Shows.initial : Shows {} .outermost := by
  have found : ({} : SymbolTable).scopes[0]? = some { parent := none } := rfl
  apply Path.within found
  next =>
    intro name
    rfl
  next =>
    intro parent isParent
    cases isParent
  next => exact .outside

theorem Shows.lookup (shown : Shows t env) (name : String) : t.lookup name = env.lookup name := by
  apply Path.lookup shown
  intro id isStart
  cases isStart
  exact shown.current_lt

theorem Shows.enter (shown : Shows t env) : Shows t.enter env.opened := by
  have fresh : t.enter.scopes[t.scopes.size]? = some { parent := some t.current } := by
    simp [SymbolTable.enter]
  apply Path.within fresh
  next =>
    intro name
    simp [Environment.opened]
  next =>
    intro parent isParent
    cases isParent
    exact shown.current_lt
  next =>
    apply Path.transfer shown
    next =>
      intro id isStart
      cases isStart
      exact shown.current_lt
    next =>
      intro id below
      simp [SymbolTable.enter, Array.getElem?_push, Nat.ne_of_lt below]

theorem Shows.leave {names inner : Names} {outer : List Names}
    (shown : Shows t ⟨names, inner :: outer⟩) : Shows t.leave ⟨inner, outer⟩ := by
  cases shown with
  | @within _ scope _ _ found same lower rest =>
    cases around : scope.parent with
    | none =>
      rw [around] at rest
      cases rest
    | some parent =>
      -- The scope that is left stays in the table, and so does the path around it.
      rw [around] at rest
      have lower' : ∀ id ∈ some parent, id < t.current := around ▸ lower
      have left : t.leave = { t with current := parent } := by
        simp [SymbolTable.leave, found, around]
      rw [left, Shows]
      apply Path.transfer rest lower'
      intro id _
      rfl

theorem Shows.leave_outermost {names : Names} (shown : Shows t ⟨names, []⟩) : t.leave = t := by
  cases shown with
  | @within _ scope _ _ found same lower rest =>
    cases around : scope.parent with
    | none => simp [SymbolTable.leave, found, around]
    | some parent =>
      rw [around] at rest
      cases rest

theorem Shows.declare_taken (shown : Shows t env) {name : String} (kind : SymbolKind)
    {existing : SymbolKind} (known : env.innermost.lookup name = some existing) :
    t.declare name kind = .error existing := by
  cases shown with
  | within found same _ _ => simp only [SymbolTable.declare, found, same, known]

theorem Shows.declare_error (shown : Shows t env) {name : String} (kind : SymbolKind)
    (member : name ∈ env.innermost) : ∃ existing, t.declare name kind = .error existing := by
  obtain ⟨existing, known⟩ := Finmap.mem_iff.mp member
  exact ⟨existing, shown.declare_taken kind known⟩

theorem Shows.declare_ok (shown : Shows t env) {name : String} (kind : SymbolKind)
    (absent : name ∉ env.innermost) :
    ∃ u, t.declare name kind = .ok u ∧
      Shows u { env with innermost := env.innermost.insert name kind } := by
  have bound := shown.current_lt
  cases shown with
  | @within _ scope _ _ found same lower rest =>
    have unknown : env.innermost.lookup name = none := Finmap.lookup_eq_none.mpr absent
    let scope' : Scope := { scope with symbols := (name, kind) :: scope.symbols }
    let later := { t with scopes := t.scopes.setIfInBounds t.current scope' }
    refine ⟨later, by simp only [SymbolTable.declare, found, same, unknown, later, scope'], ?_⟩
    have found' : later.scopes[t.current]? = some scope' := by
      simp [later, bound]
    apply Path.within found'
    next =>
      intro other
      by_cases equal : other = name
      next =>
        subst equal
        simp [scope']
      next =>
        have different : (other == name) = false := by simpa using equal
        simp [scope', List.lookup_cons, different, equal, same]
    next => exact lower
    next =>
      apply Path.transfer rest lower
      intro id below
      simp [later, Nat.ne_of_gt below]

end DrawScript.SymbolTable
