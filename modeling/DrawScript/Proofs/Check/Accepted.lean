import DrawScript.Proofs.Check.Scoping
import DrawScript.Proofs.Script.Walk

set_option autoImplicit false

namespace DrawScript.Lexical

open Catalogue

@[simp] theorem require_eq_nil {rule : Prop} [Decidable rule] {line : Nat} {cause : Check.Cause} :
    require rule line cause = [] ↔ rule := by
  rw [require]
  split <;> simp [*]

mutual
def innerPlaces (env : Environment) : Statement → List (Environment × Statement)
  | .function name parameters body _ =>
      blockPlaces ((env.declare .function name).opened.declareAll .number parameters) body
  | .ifElse _ thenBlock elseBlock _ =>
      blockPlaces env.opened thenBlock ++ otherwisePlaces env elseBlock
  | .forLoop initial _ _ body _ =>
      initialPlaces env.opened initial ++ blockPlaces (header env initial).opened body
  | .whileLoop _ body _ | .doWhile body _ _ | .animate _ _ body _ | .block body =>
      blockPlaces env.opened body
  | .var .. | .cursor .. | .returnValue .. | .copy .. | .method .. | .expression .. | .empty _ => []

def blockPlaces (env : Environment) : Block Statement → List (Environment × Statement)
  | ⟨body, _⟩ => places env body

def otherwisePlaces (env : Environment) : Option (Block Statement) → List (Environment × Statement)
  | none => []
  | some body => blockPlaces env.opened body

def initialPlaces (env : Environment) : Option Statement → List (Environment × Statement)
  | none => []
  | some initial => (env, initial) :: innerPlaces env initial

def places (env : Environment) : List Statement → List (Environment × Statement)
  | [] => []
  | s :: ss => (env, s) :: innerPlaces env s ++ places (after env s) ss
end

mutual
theorem innerPlaces_snd (env : Environment) : ∀ s, (innerPlaces env s).map Prod.snd = s.inner
  | .function name parameters body _ => blockPlaces_snd _ body
  | .ifElse _ thenBlock elseBlock _ => by
    rw [innerPlaces, Statement.inner, List.map_append, blockPlaces_snd _ thenBlock,
      otherwisePlaces_snd env elseBlock]
  | .forLoop initial _ _ body _ => by
    rw [innerPlaces, Statement.inner, List.map_append, initialPlaces_snd _ initial,
      blockPlaces_snd _ body]
  | .whileLoop _ body _ | .doWhile body _ _ | .animate _ _ body _ | .block body =>
    blockPlaces_snd _ body
  | .var .. | .cursor .. | .returnValue .. | .copy .. | .method .. | .expression .. | .empty _ =>
    rfl

theorem blockPlaces_snd (env : Environment) :
    ∀ b, (blockPlaces env b).map Prod.snd = Statement.walkBlock b
  | ⟨body, _⟩ => places_snd env body

theorem otherwisePlaces_snd (env : Environment) :
    ∀ b, (otherwisePlaces env b).map Prod.snd = Statement.walkOtherwise b
  | none => rfl
  | some body => blockPlaces_snd _ body

theorem initialPlaces_snd (env : Environment) :
    ∀ s, (initialPlaces env s).map Prod.snd = Statement.walkInitial s
  | none => rfl
  | some initial => congrArg (initial :: ·) (innerPlaces_snd env initial)

theorem places_snd (env : Environment) :
    ∀ ss, (places env ss).map Prod.snd = Statement.walkAll ss
  | [] => rfl
  | s :: ss => by
    rw [places, Statement.walkAll, List.map_append, List.map_cons, innerPlaces_snd env s,
      places_snd (after env s) ss]
end

def CleanAt (place : Environment × Statement) : Prop := statement place.1 place.2 = []

mutual
theorem innerPlaces_clean {env : Environment} :
    ∀ s, statement env s = [] → ∀ place ∈ innerPlaces env s, CleanAt place
  | .function name parameters body line => by
    intro clean
    simp only [statement, List.append_eq_nil_iff] at clean
    exact blockPlaces_clean body clean.2
  | .ifElse condition thenBlock elseBlock line => by
    intro clean
    simp only [statement, List.append_eq_nil_iff] at clean
    rw [innerPlaces, List.forall_mem_append]
    exact ⟨blockPlaces_clean thenBlock clean.1.2, otherwisePlaces_clean elseBlock clean.2⟩
  | .forLoop initial condition increment body line => by
    intro clean
    simp only [statement, List.append_eq_nil_iff] at clean
    rw [innerPlaces, List.forall_mem_append]
    exact ⟨initialPlaces_clean initial clean.1.1.1, blockPlaces_clean body clean.2⟩
  | .whileLoop condition body line => by
    intro clean
    simp only [statement, List.append_eq_nil_iff] at clean
    exact blockPlaces_clean body clean.2
  | .doWhile body condition line => by
    intro clean
    simp only [statement, List.append_eq_nil_iff] at clean
    exact blockPlaces_clean body clean.1
  | .animate first second body line => by
    intro clean
    simp only [statement, List.append_eq_nil_iff] at clean
    exact blockPlaces_clean body clean.2
  | .block body => blockPlaces_clean body
  | .var .. | .cursor .. | .returnValue .. | .copy .. | .method .. | .expression .. | .empty _ => by
    intro _ place member
    cases member

theorem blockPlaces_clean {env : Environment} :
    ∀ b, block env b = [] → ∀ place ∈ blockPlaces env b, CleanAt place
  | ⟨body, _⟩ => places_clean body

theorem otherwisePlaces_clean {env : Environment} :
    ∀ b, otherwise env b = [] → ∀ place ∈ otherwisePlaces env b, CleanAt place
  | none => by
    intro _ place member
    cases member
  | some body => blockPlaces_clean body

theorem initialPlaces_clean {env : Environment} :
    ∀ s, initially env s = [] → ∀ place ∈ initialPlaces env s, CleanAt place
  | none => by
    intro _ place member
    cases member
  | some initial => by
    intro clean
    rw [initialPlaces, List.forall_mem_cons]
    exact ⟨clean, innerPlaces_clean initial clean⟩

theorem places_clean {env : Environment} :
    ∀ ss, statements env ss = [] → ∀ place ∈ places env ss, CleanAt place
  | [] => by
    intro _ place member
    cases member
  | s :: ss => by
    intro clean
    obtain ⟨first, later⟩ := List.append_eq_nil_iff.mp clean
    rw [places, List.forall_mem_append, List.forall_mem_cons]
    exact ⟨⟨first, innerPlaces_clean s first⟩, places_clean ss later⟩
end

def Clean (s : Statement) : Prop := ∃ env, statement env s = []

theorem clean_of_check {p : Program} (accepted : p.check = []) : ∀ s ∈ p.walk, Clean s := by
  rw [check_eq_statements] at accepted
  rw [Program.walk, ← places_snd .outermost p]
  intro s member
  obtain ⟨place, isPlace, rfl⟩ := List.mem_map.mp member
  exact ⟨place.1, places_clean p accepted place isPlace⟩

def Fitting (arity : Nat) (needed : Bool) (arguments : List Expr) : Prop :=
  arguments.length = arity ∧ (needed → ∀ e ∈ arguments, e.isConstant)

theorem Clean.call {name : String} {arguments : List Expr} {line : Nat} {function : DrawFunction}
    (clean : Clean (.expression (.call name arguments) line))
    (known : drawFunction? name = some function) :
    Fitting function.arity function.action.needsConstants arguments := by
  obtain ⟨env, clean⟩ := clean
  simp only [statement, expression, Lexical.call, known, constants, List.append_eq_nil_iff,
    require_eq_nil] at clean
  exact clean.1

theorem Clean.method {cursor name : String} {arguments : List Expr} {line : Nat}
    (clean : Clean (.method cursor name arguments line)) :
    ∃ method, cursorMethod? name = some method ∧
      Fitting method.arity method.action.needsConstants arguments := by
  obtain ⟨env, clean⟩ := clean
  rw [statement, List.append_eq_nil_iff, Lexical.method] at clean
  replace clean := clean.2
  split at clean
  next => cases clean
  next => cases clean
  next => cases clean
  next => cases clean
  next method _ known =>
    simp only [constants, List.append_eq_nil_iff, require_eq_nil] at clean
    exact ⟨method, known, clean⟩

theorem Clean.cursor {name : String} {arguments : List Expr} {line : Nat}
    (clean : Clean (.cursor name arguments line)) : arguments.length = cursorConstructorArity := by
  obtain ⟨env, clean⟩ := clean
  simp only [statement, List.append_eq_nil_iff, require_eq_nil] at clean
  exact clean.1.2

end DrawScript.Lexical
