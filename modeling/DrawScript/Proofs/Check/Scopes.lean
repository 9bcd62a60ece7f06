import DrawScript.Proofs.Check.Hoisting
import DrawScript.Proofs.Check.Shadowing

set_option autoImplicit false

namespace DrawScript

namespace Statement

def newNames (s : Statement) : List String := (s.declared?.map Prod.fst).toList

def declares : Statement → List String
  | .function name parameters _ _ => name :: parameters
  | s => s.newNames

mutual
def innerScopes : Statement → List (List String × List Statement)
  | .function name parameters body _ =>
      (name :: parameters, walkBlock body) :: blockScopes body
  | .ifElse _ thenBlock elseBlock _ => blockScopes thenBlock ++ otherwiseScopes elseBlock
  | .forLoop initial _ _ body _ => initialScopes (walkBlock body) initial ++ blockScopes body
  | .whileLoop _ body _ | .doWhile body _ _ | .animate _ _ body _ | .block body => blockScopes body
  | .var .. | .cursor .. | .returnValue .. | .copy .. | .method .. | .expression .. | .empty _ => []

def blockScopes : Block Statement → List (List String × List Statement)
  | ⟨body, _⟩ => scopes body

def otherwiseScopes : Option (Block Statement) → List (List String × List Statement)
  | none => []
  | some body => blockScopes body

def initialScopes (body : List Statement) :
    Option Statement → List (List String × List Statement)
  | none => []
  | some initial => (initial.newNames, body) :: initial.innerScopes

def scopes : List Statement → List (List String × List Statement)
  | [] => []
  | s :: ss => (s.newNames, walkAll ss) :: s.innerScopes ++ scopes ss
end

mutual
theorem inner_subset_inner {s : Statement} : ∀ t : Statement, s ∈ t.inner → s.inner ⊆ t.inner
  | .function _ _ body _ | .whileLoop _ body _ | .doWhile body _ _ | .animate _ _ body _
  | .block body => inner_subset_walkBlock body
  | .ifElse _ thenBlock elseBlock _ => by
    intro member
    rcases List.mem_append.mp member with first | second
    next => exact List.subset_append_of_subset_left _ (inner_subset_walkBlock thenBlock first)
    next =>
      exact List.subset_append_of_subset_right _ (inner_subset_walkOtherwise elseBlock second)
  | .forLoop initial _ _ body _ => by
    intro member
    rcases List.mem_append.mp member with first | second
    next => exact List.subset_append_of_subset_left _ (inner_subset_walkInitial initial first)
    next => exact List.subset_append_of_subset_right _ (inner_subset_walkBlock body second)
  | .var .. | .cursor .. | .returnValue .. | .copy .. | .method .. | .expression .. | .empty _ =>
    fun member => absurd member List.not_mem_nil

theorem inner_subset_walkBlock {s : Statement} :
    ∀ b, s ∈ walkBlock b → s.inner ⊆ walkBlock b
  | ⟨body, _⟩ => inner_subset_walkAll body

theorem inner_subset_walkOtherwise {s : Statement} :
    ∀ b, s ∈ walkOtherwise b → s.inner ⊆ walkOtherwise b
  | none => fun member => absurd member List.not_mem_nil
  | some body => inner_subset_walkBlock body

theorem inner_subset_walkInitial {s : Statement} :
    ∀ initial, s ∈ walkInitial initial → s.inner ⊆ walkInitial initial
  | none => fun member => absurd member List.not_mem_nil
  | some initial => by
    intro member
    rcases List.mem_cons.mp member with rfl | inside
    next => exact List.subset_cons_self _ _
    next => exact List.subset_cons_of_subset _ (inner_subset_inner initial inside)

theorem inner_subset_walkAll {s : Statement} : ∀ ss, s ∈ walkAll ss → s.inner ⊆ walkAll ss
  | [] => fun member => absurd member List.not_mem_nil
  | t :: ss => by
    intro member
    rcases List.mem_append.mp member with first | later
    next =>
      refine List.subset_append_of_subset_left _ ?_
      rcases List.mem_cons.mp first with rfl | inside
      next => exact List.subset_cons_self _ _
      next => exact List.subset_cons_of_subset _ (inner_subset_inner t inside)
    next => exact List.subset_append_of_subset_right _ (inner_subset_walkAll ss later)
end

theorem mem_newNames {s : Statement} {name : String} :
    name ∈ s.newNames ↔ ∃ kind, s.declared? = some (name, kind) := by
  simp [newNames]

theorem newNames_subset_declares (s : Statement) : s.newNames ⊆ s.declares := by
  cases s with
  | function name parameters body line => exact List.cons_subset_cons name (List.nil_subset _)
  | _ => exact List.Subset.refl _

end Statement

def Program.scopes (p : Program) : List (List String × List Statement) := Statement.scopes p

namespace Lexical

open Catalogue

variable {env : Environment} {name : String}

namespace Environment

def Knows (env : Environment) (name : String) : Prop := env.lookup name ≠ none

theorem distance?_eq_none : env.distance? name = none ↔ ¬ env.Knows name := by
  rw [Knows, not_not, distance?, lookup, List.findIdx?_eq_none_iff, List.findSome?_eq_none_iff]
  simp only [Finmap.lookup_eq_none, decide_eq_false_iff_not]

@[simp] theorem knows_opened : env.opened.Knows name ↔ env.Knows name := by
  rw [Knows, lookup_opened, Knows]

theorem not_knows_outermost : ¬ outermost.Knows name := by simp [Knows]

theorem knows_declare (proper : ¬ isSurfaceName name) (kind : SymbolKind) (other : String) :
    (env.declare kind other).Knows name ↔ env.Knows name ∨ name = other := by
  by_cases taken : env.Taken other
  next =>
    rw [declare, if_pos taken]
    refine ⟨.inl, fun known => known.elim id ?_⟩
    rintro rfl
    have member := taken.resolve_left proper
    rw [Knows, lookup_of_mem member]
    exact fun absent => Finmap.lookup_eq_none.mp absent member
  next =>
    rw [Knows, lookup_declare kind taken, Knows]
    by_cases same : name = other
    next => simp [same]
    next => simp [same]

theorem knows_declareAll (proper : ¬ isSurfaceName name) (kind : SymbolKind)
    (names : List String) :
    (env.declareAll kind names).Knows name ↔ env.Knows name ∨ name ∈ names := by
  induction names generalizing env with
  | nil => simp [declareAll]
  | cons other names ih =>
    have step : env.declareAll kind (other :: names) =
        (env.declare kind other).declareAll kind names := rfl
    rw [step, ih, knows_declare proper, List.mem_cons, or_assoc]

end Environment

theorem knows_after (proper : ¬ isSurfaceName name) (s : Statement) :
    (after env s).Knows name ↔ env.Knows name ∨ name ∈ s.newNames := by
  rw [after_eq, Statement.newNames]
  cases s.declared? with
  | none => simp
  | some found => simpa using Environment.knows_declare proper found.2 found.1

section

variable {property : Statement → Prop}

def Among (property : Statement → Prop) (ss : List Statement) : Prop := ∃ s ∈ ss, property s

def Met (property : Statement → Prop) (name : String) (places : List (Environment × Statement)) :
    Prop :=
  ∃ place ∈ places, property place.2 ∧ place.1.Knows name

def Covered (property : Statement → Prop) (name : String)
    (scopes : List (List String × List Statement)) : Prop :=
  ∃ scope ∈ scopes, name ∈ scope.1 ∧ Among property scope.2

instance [DecidablePred property] (ss : List Statement) : Decidable (Among property ss) :=
  inferInstanceAs (Decidable (∃ s ∈ ss, property s))

instance [DecidablePred property] (scopes : List (List String × List Statement)) :
    Decidable (Covered property name scopes) :=
  inferInstanceAs (Decidable (∃ scope ∈ scopes, name ∈ scope.1 ∧ Among property scope.2))

@[simp] theorem among_nil : ¬ Among property [] := by simp [Among]

@[simp] theorem among_cons {s : Statement} {ss : List Statement} :
    Among property (s :: ss) ↔ property s ∨ Among property ss := by
  simp [Among]

@[simp] theorem among_append {ss others : List Statement} :
    Among property (ss ++ others) ↔ Among property ss ∨ Among property others := by
  simp [Among, or_and_right, exists_or]

@[simp] theorem met_nil : ¬ Met property name [] := by simp [Met]

@[simp] theorem met_cons {place : Environment × Statement}
    {places : List (Environment × Statement)} :
    Met property name (place :: places) ↔
      (property place.2 ∧ place.1.Knows name) ∨ Met property name places := by
  simp [Met]

@[simp] theorem met_append {places others : List (Environment × Statement)} :
    Met property name (places ++ others) ↔
      Met property name places ∨ Met property name others := by
  simp [Met, or_and_right, exists_or]

@[simp] theorem covered_nil : ¬ Covered property name [] := by simp [Covered]

@[simp] theorem covered_cons {names : List String} {ss : List Statement}
    {scopes : List (List String × List Statement)} :
    Covered property name ((names, ss) :: scopes) ↔
      (name ∈ names ∧ Among property ss) ∨ Covered property name scopes := by
  simp [Covered]

@[simp] theorem covered_append {scopes others : List (List String × List Statement)} :
    Covered property name (scopes ++ others) ↔
      Covered property name scopes ∨ Covered property name others := by
  simp [Covered, or_and_right, exists_or]

-- What is known from outside is known to every statement, the rest to those in its scope.
mutual
theorem innerPlaces_met (proper : ¬ isSurfaceName name) (env : Environment) :
    ∀ s, Met property name (innerPlaces env s) ↔
      (env.Knows name ∧ Among property s.inner) ∨ Covered property name s.innerScopes
  | .function function parameters body line => by
    rw [innerPlaces, blockPlaces_met proper, Environment.knows_declareAll proper,
      Environment.knows_opened, Environment.knows_declare proper, Statement.inner,
      Statement.innerScopes, covered_cons, List.mem_cons]
    grind
  | .ifElse condition thenBlock elseBlock line => by
    rw [innerPlaces, met_append, blockPlaces_met proper, otherwisePlaces_met proper,
      Environment.knows_opened, Statement.inner, among_append, Statement.innerScopes,
      covered_append]
    grind
  | .forLoop initial condition increment body line => by
    rw [innerPlaces, met_append, blockPlaces_met proper, Environment.knows_opened, Statement.inner,
      among_append, Statement.innerScopes, covered_append]
    have first := initialPlaces_met proper env (Statement.walkBlock body) initial
    grind
  | .whileLoop _ body _ | .doWhile body _ _ | .animate _ _ body _ | .block body => by
    rw [innerPlaces, blockPlaces_met proper, Environment.knows_opened, Statement.inner,
      Statement.innerScopes]
  | .var .. | .cursor .. | .returnValue .. | .copy .. | .method .. | .expression .. | .empty _ => by
    simp [innerPlaces, Statement.inner, Statement.innerScopes]

theorem blockPlaces_met (proper : ¬ isSurfaceName name) (env : Environment) :
    ∀ b, Met property name (blockPlaces env b) ↔
      (env.Knows name ∧ Among property (Statement.walkBlock b)) ∨
        Covered property name (Statement.blockScopes b)
  | ⟨body, _⟩ => places_met proper env body

theorem otherwisePlaces_met (proper : ¬ isSurfaceName name) (env : Environment) :
    ∀ b, Met property name (otherwisePlaces env b) ↔
      (env.Knows name ∧ Among property (Statement.walkOtherwise b)) ∨
        Covered property name (Statement.otherwiseScopes b)
  | none => by simp [otherwisePlaces, Statement.walkOtherwise, Statement.otherwiseScopes]
  | some body => by
    rw [otherwisePlaces, blockPlaces_met proper, Environment.knows_opened]
    rfl

theorem initialPlaces_met (proper : ¬ isSurfaceName name) (env : Environment)
    (body : List Statement) :
    ∀ initial, (Met property name (initialPlaces env.opened initial) ∨
        (header env initial).Knows name ∧ Among property body) ↔
      (env.Knows name ∧ (Among property (Statement.walkInitial initial) ∨ Among property body)) ∨
        Covered property name (Statement.initialScopes body initial)
  | none => by
    simp [initialPlaces, header, Statement.walkInitial, Statement.initialScopes]
  | some initial => by
    rw [initialPlaces, met_cons, innerPlaces_met proper, Environment.knows_opened, header,
      knows_after proper, Environment.knows_opened, Statement.walkInitial, among_cons,
      Statement.initialScopes, covered_cons]
    grind

theorem places_met (proper : ¬ isSurfaceName name) (env : Environment) :
    ∀ ss, Met property name (places env ss) ↔
      (env.Knows name ∧ Among property (Statement.walkAll ss)) ∨
        Covered property name (Statement.scopes ss)
  | [] => by simp [places, Statement.walkAll, Statement.scopes]
  | s :: ss => by
    rw [places, met_append, met_cons, innerPlaces_met proper, places_met proper, knows_after proper,
      Statement.walkAll, among_append, among_cons, Statement.scopes, covered_append, covered_cons]
    grind
end

mutual
theorem innerScopes_declared :
    ∀ s : Statement, Covered property name s.innerScopes → Among (name ∈ ·.declares) s.walk
  | .function function parameters body line => by
    intro covered
    rw [Statement.innerScopes, covered_cons] at covered
    rw [Statement.walk, among_cons]
    exact covered.imp And.left (blockScopes_declared body)
  | .ifElse condition thenBlock elseBlock line => by
    intro covered
    rw [Statement.innerScopes, covered_append] at covered
    rw [Statement.walk, among_cons, Statement.inner, among_append]
    exact .inr (covered.imp (blockScopes_declared thenBlock) (otherwiseScopes_declared elseBlock))
  | .forLoop initial condition increment body line => by
    intro covered
    rw [Statement.innerScopes, covered_append] at covered
    rw [Statement.walk, among_cons, Statement.inner, among_append]
    exact .inr (covered.imp (initialScopes_declared _ initial) (blockScopes_declared body))
  | .whileLoop _ body _ | .doWhile body _ _ | .animate _ _ body _ | .block body => by
    intro covered
    rw [Statement.walk, among_cons]
    exact .inr (blockScopes_declared body covered)
  | .var .. | .cursor .. | .returnValue .. | .copy .. | .method .. | .expression .. | .empty _ =>
    fun covered => (covered_nil covered).elim

theorem blockScopes_declared :
    ∀ b, Covered property name (Statement.blockScopes b) →
      Among (name ∈ ·.declares) (Statement.walkBlock b)
  | ⟨body, _⟩ => scopes_declared body

theorem otherwiseScopes_declared :
    ∀ b, Covered property name (Statement.otherwiseScopes b) →
      Among (name ∈ ·.declares) (Statement.walkOtherwise b)
  | none => fun covered => (covered_nil covered).elim
  | some body => blockScopes_declared body

theorem initialScopes_declared (body : List Statement) :
    ∀ initial, Covered property name (Statement.initialScopes body initial) →
      Among (name ∈ ·.declares) (Statement.walkInitial initial)
  | none => fun covered => (covered_nil covered).elim
  | some initial => by
    intro covered
    rw [Statement.initialScopes, covered_cons] at covered
    rcases covered with ⟨isNew, -⟩ | inside
    next => exact ⟨initial, List.mem_cons_self, initial.newNames_subset_declares isNew⟩
    next => exact innerScopes_declared initial inside

theorem scopes_declared :
    ∀ ss, Covered property name (Statement.scopes ss) →
      Among (name ∈ ·.declares) (Statement.walkAll ss)
  | [] => fun covered => (covered_nil covered).elim
  | s :: ss => by
    intro covered
    rw [Statement.scopes, covered_append, covered_cons] at covered
    rw [Statement.walkAll, among_append]
    rcases covered with (⟨isNew, -⟩ | inside) | later
    next => exact .inl ⟨s, List.mem_cons_self, s.newNames_subset_declares isNew⟩
    next => exact .inl (innerScopes_declared s inside)
    next => exact .inr (scopes_declared ss later)
end

theorem covered_scopes {p : Program} (nested : name ∉ p.declaredNames) :
    Covered property name p.scopes ↔ ∃ s ∈ p, Covered property name s.innerScopes := by
  rw [Program.scopes]
  induction p with
  | nil => simp [Statement.scopes]
  | cons s ss ih =>
    rw [Program.declaredNames_cons, List.mem_append, not_or] at nested
    have old : name ∉ s.newNames := nested.1
    rw [Statement.scopes, covered_append, covered_cons, ih nested.2]
    simp [old]

end

end Lexical

end DrawScript
