import DrawScript.Proofs.Check.Table

set_option autoImplicit false

namespace DrawScript

namespace SymbolTable

inductive Call where
  | enter
  | leave
  | declare (name : String) (kind : SymbolKind)
  | lookup (name : String)

inductive Answer where
  | done
  | taken (existing : SymbolKind)
  | found (kind : Option SymbolKind)
  deriving DecidableEq, Repr

def perform (t : SymbolTable) : Call → Answer × SymbolTable
  | .enter => (.done, t.enter)
  | .leave => (.done, t.leave)
  | .declare name kind => match t.declare name kind with
      | .ok later => (.done, later)
      | .error existing => (.taken existing, t)
  | .lookup name => (.found (t.lookup name), t)

end SymbolTable

namespace Lexical.Environment

open SymbolTable (Call Answer)

def closed : Environment → Environment
  | ⟨_, inner :: outer⟩ => ⟨inner, outer⟩
  | ⟨names, []⟩ => ⟨names, []⟩

def perform (env : Environment) : Call → Answer × Environment
  | .enter => (.done, env.opened)
  | .leave => (.done, env.closed)
  | .declare name kind => match env.innermost.lookup name with
      | some existing => (.taken existing, env)
      | none => (.done, { env with innermost := env.innermost.insert name kind })
  | .lookup name => (.found (env.lookup name), env)

end Lexical.Environment

namespace SymbolTable

open Lexical

def performAll {σ : Type} (perform : σ → Call → Answer × σ) (state : σ) :
    List Call → List Answer × σ
  | [] => ([], state)
  | call :: calls =>
      let (answer, next) := perform state call
      let (answers, last) := performAll perform next calls
      (answer :: answers, last)

/-- What looking up a name does from one scope on, however many steps it takes. -/
inductive Search (t : SymbolTable) (name : String) : Option Nat → Option SymbolKind → Prop
  | outside : Search t name none none
  | lost {id : Nat} (missing : t.scopes[id]? = none) : Search t name (some id) none
  | here {id : Nat} {scope : Scope} {kind : SymbolKind} (present : t.scopes[id]? = some scope)
      (known : scope.symbols.lookup name = some kind) : Search t name (some id) (some kind)
  | outward {id : Nat} {scope : Scope} {result : Option SymbolKind}
      (present : t.scopes[id]? = some scope) (unknown : scope.symbols.lookup name = none)
      (rest : Search t name scope.parent result) : Search t name (some id) result

/-- The current scope exists, and every scope was opened after the one around it. -/
structure Sound (t : SymbolTable) : Prop where
  current : t.current < t.scopes.size
  parents : ∀ (id : Nat) (scope : Scope), t.scopes[id]? = some scope →
    ∀ parent ∈ scope.parent, parent < id

variable {t : SymbolTable} {env : Environment}

theorem Sound.initial : Sound {} where
  current := Nat.zero_lt_one
  parents := by
    intro id scope present parent isParent
    obtain ⟨bound, rfl⟩ := Array.getElem?_eq_some_iff.mp present
    obtain rfl : id = 0 := Nat.lt_one_iff.mp bound
    cases isParent

theorem Sound.enter (sound : t.Sound) : t.enter.Sound where
  current := by simp [SymbolTable.enter]
  parents := by
    intro id scope present parent isParent
    simp only [SymbolTable.enter, Array.getElem?_push] at present
    split at present
    next fresh =>
      cases present
      cases isParent
      exact fresh ▸ sound.current
    next => exact sound.parents id scope present parent isParent

theorem Sound.leave (sound : t.Sound) : t.leave.Sound := by
  rw [SymbolTable.leave]
  split
  next parent around =>
    obtain ⟨scope, present, isParent⟩ := Option.bind_eq_some_iff.mp around
    have lower := sound.parents t.current scope present parent isParent
    exact ⟨Nat.lt_trans lower sound.current, sound.parents⟩
  next => exact sound

theorem Sound.declare (sound : t.Sound) {name : String} {kind : SymbolKind} {later : SymbolTable}
    (accepted : t.declare name kind = .ok later) : later.Sound := by
  -- Only the names of the current scope change; its number and its parent stay.
  have bound := sound.current
  have present : t.scopes[t.current]? = some t.scopes[t.current] := Array.getElem?_eq_getElem bound
  simp only [SymbolTable.declare, present] at accepted
  split at accepted
  next => cases accepted
  next =>
    cases accepted
    refine ⟨by simpa using bound, ?_⟩
    intro id scope found parent isParent
    simp only [Array.getElem?_setIfInBounds] at found
    split at found
    next same =>
      subst same
      cases found
      exact sound.parents t.current _ present parent isParent
    next => exact sound.parents id scope found parent isParent

theorem Sound.perform (sound : t.Sound) (call : Call) : (t.perform call).2.Sound := by
  cases call with
  | enter => exact sound.enter
  | leave => exact sound.leave
  | declare name kind =>
    simp only [SymbolTable.perform]
    split
    next accepted => exact sound.declare accepted
    next => exact sound
  | lookup name => exact sound

theorem Search.eq_lookupFrom {name : String} {start : Option Nat} {result : Option SymbolKind}
    (search : Search t name start result) (sound : t.Sound) {bound : Nat}
    (enough : ∀ id ∈ start, id < bound) : result = t.lookupFrom name bound start := by
  induction search generalizing bound with
  | outside => cases bound <;> rfl
  | @lost id missing =>
    obtain ⟨bound, rfl⟩ : ∃ n, bound = n + 1 := ⟨bound - 1, by have := enough id rfl; omega⟩
    simp [lookupFrom, missing]
  | @here id scope kind present known =>
    obtain ⟨bound, rfl⟩ : ∃ n, bound = n + 1 := ⟨bound - 1, by have := enough id rfl; omega⟩
    simp [lookupFrom, present, known]
  | @outward id scope result present unknown _ ih =>
    -- The parent has a smaller number, so one step less is enough for it.
    have positive : id < bound := enough id rfl
    obtain ⟨bound, rfl⟩ : ∃ n, bound = n + 1 := ⟨bound - 1, by omega⟩
    have remaining : ∀ parent ∈ scope.parent, parent < bound := by
      intro parent isParent
      have := sound.parents id scope present parent isParent
      omega
    simp [lookupFrom, present, unknown, ih remaining]

theorem Sound.search (sound : t.Sound) (name : String) (start : Option Nat) :
    ∃ result, Search t name start result := by
  cases start with
  | none => exact ⟨none, .outside⟩
  | some id =>
    induction id using Nat.strongRecOn with
    | ind id ih =>
      cases present : t.scopes[id]? with
      | none => exact ⟨none, .lost present⟩
      | some scope =>
        cases known : scope.symbols.lookup name with
        | some kind => exact ⟨some kind, .here present known⟩
        | none =>
          cases around : scope.parent with
          | none => exact ⟨none, .outward present known (around ▸ .outside)⟩
          | some parent =>
            obtain ⟨result, rest⟩ := ih parent (sound.parents id scope present parent around)
            exact ⟨result, .outward present known (around ▸ rest)⟩

theorem Sound.search_iff (sound : t.Sound) (name : String) (result : Option SymbolKind) :
    Search t name (some t.current) result ↔ result = t.lookup name := by
  have enough : ∀ id ∈ some t.current, id < t.scopes.size := by
    rintro id ⟨⟩
    exact sound.current
  constructor
  next => exact fun search => search.eq_lookupFrom sound enough
  next =>
    rintro rfl
    obtain ⟨result, search⟩ := sound.search name (some t.current)
    have same : result = t.lookup name := search.eq_lookupFrom sound enough
    exact same ▸ search

theorem Shows.perform (shown : Shows t env) (call : Call) :
    (t.perform call).1 = (env.perform call).1 ∧
      Shows (t.perform call).2 (env.perform call).2 := by
  cases call with
  | enter => exact ⟨rfl, shown.enter⟩
  | leave =>
    obtain ⟨names, outer⟩ := env
    cases outer with
    | nil =>
      simp only [SymbolTable.perform, shown.leave_outermost]
      exact ⟨rfl, shown⟩
    | cons inner outer => exact ⟨rfl, shown.leave⟩
  | declare name kind =>
    cases known : env.innermost.lookup name with
    | some existing =>
      simp only [SymbolTable.perform, Environment.perform, known, shown.declare_taken kind known]
      exact ⟨trivial, shown⟩
    | none =>
      obtain ⟨later, accepted, shown'⟩ := shown.declare_ok kind (Finmap.lookup_eq_none.mp known)
      simp only [SymbolTable.perform, Environment.perform, known, accepted]
      exact ⟨trivial, shown'⟩
  | lookup name => exact ⟨congrArg Answer.found (shown.lookup name), shown⟩

theorem Shows.performAll (shown : Shows t env) (sound : t.Sound) (calls : List Call) :
    (performAll SymbolTable.perform t calls).1 = (performAll Environment.perform env calls).1 ∧
      (performAll SymbolTable.perform t calls).2.Sound := by
  induction calls generalizing t env with
  | nil => exact ⟨rfl, sound⟩
  | cons call calls ih =>
    obtain ⟨same, shown'⟩ := shown.perform call
    obtain ⟨answers, sound'⟩ := ih shown' (sound.perform call)
    refine ⟨?_, sound'⟩
    simp only [SymbolTable.performAll]
    rw [same, answers]

def reached (calls : List Call) : SymbolTable := (performAll perform {} calls).2

theorem performAll_stack (calls : List Call) :
    (performAll perform {} calls).1 = (performAll Environment.perform .outermost calls).1 ∧
    (reached calls).Sound ∧
    (∀ name result, Search (reached calls) name (some (reached calls).current) result ↔
      result = (reached calls).lookup name) ∧
    ∃ scope, (reached calls).scopes[(reached calls).current]? = some scope := by
  obtain ⟨answers, sound⟩ := Shows.initial.performAll Sound.initial calls
  exact ⟨answers, sound, sound.search_iff, _, Array.getElem?_eq_getElem sound.current⟩

end SymbolTable

end DrawScript
