import DrawScript.Code.Program
import DrawScript.Proofs.Check.Widening

set_option autoImplicit false

namespace DrawScript

namespace Program

/-- The order in which the statements of a program are written in C. -/
def hoisted (p : Program) : Program :=
  p.filter Statement.isVar ++ p.filter (not ∘ Statement.isVar)

def declaredNames (p : Program) : List String := p.filterMap fun s => s.declared?.map Prod.fst

def lateNames (p : Program) : List String := declaredNames (p.filter (not ∘ Statement.isVar))

theorem generate_hoisted (p : Program) (surface : Surface) :
    p.hoisted.generate surface = p.generate surface := by
  have split : p.hoisted.partition Statement.isVar = p.partition Statement.isVar := by
    rw [List.partition_eq_filter_filter, List.partition_eq_filter_filter, hoisted,
      List.filter_append, List.filter_append]
    simp [List.filter_filter, Function.comp_def]
  simp only [generate, Generator.run, Code.sections, split]

theorem mem_declaredNames {p : Program} {name : String} :
    name ∈ declaredNames p ↔ ∃ s ∈ p, ∃ kind, s.declared? = some (name, kind) := by
  simp [declaredNames]

theorem declaredNames_cons (s : Statement) (ss : List Statement) :
    declaredNames (s :: ss) = (s.declared?.map Prod.fst).toList ++ declaredNames ss := by
  rw [declaredNames, List.filterMap_cons]
  cases s.declared? <;> rfl

theorem declaredNames_filter_subset (p : Program) (keep : Statement → Bool) :
    declaredNames (p.filter keep) ⊆ p.declaredNames :=
  (List.filter_sublist.filterMap _).subset

theorem disjoint_lateNames {p : Program} (distinct : p.declaredNames.Nodup) :
    (declaredNames (p.filter Statement.isVar)).Disjoint p.lateNames := by
  -- The two parts together are the program in another order, so no name is in both.
  have same : p.hoisted.declaredNames.Perm p.declaredNames :=
    (List.filter_append_perm Statement.isVar p).filterMap _
  have parts : p.hoisted.declaredNames =
      declaredNames (p.filter Statement.isVar) ++ p.lateNames := List.filterMap_append
  rw [parts] at same
  exact List.disjoint_of_nodup_append (same.nodup_iff.mpr distinct)

theorem mem_lateNames_iff {p : Program} (distinct : p.declaredNames.Nodup) {s : Statement}
    (member : s ∈ p) {name : String} {kind : SymbolKind}
    (declared : s.declared? = some (name, kind)) : name ∈ p.lateNames ↔ ¬ s.isVar := by
  constructor
  next =>
    intro isLate isVar
    refine disjoint_lateNames distinct (mem_declaredNames.mpr ?_) isLate
    exact ⟨s, List.mem_filter.mpr ⟨member, isVar⟩, kind, declared⟩
  next =>
    intro notVar
    refine mem_declaredNames.mpr ⟨s, List.mem_filter.mpr ⟨member, ?_⟩, kind, declared⟩
    simpa using notVar

end Program

namespace Lexical

open Catalogue

variable {env narrow wider : Environment} {late : List String}

theorem statements_append (ss others : List Statement) :
    statements env (ss ++ others) =
      statements env ss ++ statements (ss.foldl after env) others := by
  induction ss generalizing env with
  | nil => rfl
  | cons s ss ih =>
    simp only [List.cons_append, statements, ih, List.foldl_cons, List.append_assoc]

section

variable {s : Statement} {name : String} {kind : SymbolKind}

theorem after_none (silent : s.declared? = none) : after env s = env := by
  rw [after_eq, silent]
  rfl

theorem lookup_after (declared : s.declared? = some (name, kind)) (free : ¬ env.Taken name)
    (other : String) :
    (after env s).lookup other = if other = name then some kind else env.lookup other := by
  rw [after_eq, declared]
  exact Environment.lookup_declare kind free other

theorem taken_after (declared : s.declared? = some (name, kind)) (free : ¬ env.Taken name)
    {other : String} : (after env s).Taken other ↔ other = name ∨ env.Taken other := by
  rw [after_eq, declared]
  simp only [Option.elim_some, Environment.Taken, Environment.innermost_declare kind free,
    Finmap.mem_insert]
  tauto

end

theorem declaredNames_of_clean {p : Program} (clean : statements env p = []) :
    p.declaredNames.Nodup ∧ ∀ name ∈ p.declaredNames, ¬ env.Taken name := by
  induction p generalizing env with
  | nil => simp [Program.declaredNames]
  | cons s ss ih =>
    obtain ⟨first, rest⟩ := List.append_eq_nil_iff.mp clean
    obtain ⟨distinct, free⟩ := ih rest
    rw [Program.declaredNames_cons]
    cases declared : s.declared? with
    | none =>
      rw [after_none declared] at free
      exact ⟨distinct, free⟩
    | some found =>
      have own : ¬ env.Taken found.1 := free_of_clean first declared
      simp only [taken_after declared own, not_or] at free
      have once : found.1 ∉ Program.declaredNames ss := fun again => (free _ again).1 rfl
      refine ⟨List.nodup_cons.mpr ⟨once, distinct⟩, List.forall_mem_cons.mpr ⟨own, ?_⟩⟩
      exact fun name member => (free name member).2

def early (late : List String) : Statement → List CheckError
  | .var _ _ initial line =>
      initial.names.flatMap fun name => require (name ∉ late) line (.undeclared name)
  | _ => []

/-- On the outermost level, all names are known but the late ones. -/
structure Narrows (late : List String) (env narrow : Environment) : Prop where
  outermost : env.outer = []
  lookup : ∀ name, narrow.lookup name = if name ∈ late then none else env.lookup name

namespace Narrows

theorem free (narrows : Narrows late env narrow) {name : String} (timely : name ∉ late)
    (free : ¬ env.Taken name) : ¬ narrow.Taken name := by
  rintro (surface | member)
  next => exact free (.inl surface)
  next =>
    have known : narrow.lookup name ≠ none := by
      rw [Environment.lookup_of_mem member]
      exact fun absent => Finmap.lookup_eq_none.mp absent member
    rw [narrows.lookup, if_neg timely, ← Environment.mem_innermost_iff narrows.outermost] at known
    exact free (.inr known)

theorem sees (narrows : Narrows late env narrow) (proper : ∀ name ∈ late, ¬ isSurfaceName name)
    {name : String} (seen : env.Sees name) : narrow.Sees name ↔ name ∉ late := by
  rw [Environment.Sees, narrows.lookup]
  by_cases isLate : name ∈ late
  next => simp [isLate, proper name isLate]
  next => simpa [isLate, Environment.Sees] using seen

theorem expression (narrows : Narrows late env narrow)
    (proper : ∀ name ∈ late, ¬ isSurfaceName name) {line : Nat} {e : Expr}
    (clean : expression env line e = []) :
    Lexical.expression narrow line e =
      e.names.flatMap fun name => require (name ∉ late) line (.undeclared name) := by
  have seen := clean
  rw [expression_elsewhere env e clean, Environment.unseen_eq_nil] at seen
  rw [expression_elsewhere narrow e clean, Environment.unseen]
  refine List.flatMap_congr fun name member => ?_
  simp only [narrows.sees proper (seen name member)]

theorem after_var (narrows : Narrows late env narrow) {s : Statement} {name : String}
    {kind : SymbolKind} (declared : s.declared? = some (name, kind)) (timely : name ∉ late)
    (free : ¬ env.Taken name) : Narrows late (after env s) (after narrow s) where
  outermost := by simpa using narrows.outermost
  lookup := by
    intro other
    rw [lookup_after declared free, lookup_after declared (narrows.free timely free),
      narrows.lookup]
    by_cases same : other = name
    next => simp [same, timely]
    next => simp [same]

theorem after_other (narrows : Narrows late env narrow) {s : Statement}
    (clean : statement env s = [])
    (isLate : ∀ name kind, s.declared? = some (name, kind) → name ∈ late) :
    Narrows late (after env s) narrow where
  outermost := by simpa using narrows.outermost
  lookup := by
    intro other
    rw [narrows.lookup]
    cases declared : s.declared? with
    | none => rw [after_none declared]
    | some found =>
      rw [lookup_after declared (free_of_clean clean declared)]
      by_cases same : other = found.1
      next => simp [same, isLate found.1 found.2 declared]
      next => simp [same]

end Narrows

theorem vars_check (proper : ∀ name ∈ late, ¬ isSurfaceName name) {p : Program}
    (sorted : ∀ s ∈ p, ∀ name kind, s.declared? = some (name, kind) → (name ∈ late ↔ ¬ s.isVar))
    (narrows : Narrows late env narrow) (clean : statements env p = []) :
    statements narrow (p.filter Statement.isVar) =
      (p.filter Statement.isVar).flatMap (early late) := by
  induction p generalizing env narrow with
  | nil => rfl
  | cons s ss ih =>
    obtain ⟨first, rest⟩ := List.append_eq_nil_iff.mp clean
    obtain ⟨own, others⟩ := List.forall_mem_cons.mp sorted
    by_cases isVar : s.isVar
    next =>
      cases s with
      | var name type initial line =>
        have free : ¬ env.Taken name := free_of_clean first rfl
        have timely : name ∉ late := by simpa [isVar] using own name .number rfl
        rw [statement, List.append_eq_nil_iff] at first
        rw [List.filter_cons_of_pos isVar, List.flatMap_cons, statements,
          ih others (narrows.after_var rfl timely free) rest, statement, declaration,
          require_eq_nil.mpr (narrows.free timely free), List.append_nil,
          narrows.expression proper first.1]
        rfl
      | _ => cases isVar
    next =>
      rw [List.filter_cons_of_neg isVar]
      refine ih others (narrows.after_other first fun name kind declared => ?_) rest
      exact (own name kind declared).mpr isVar

/-- All variables that are still to come are known, and everything else that will be declared is
free. -/
structure Expects (wider : Environment) (p : Program) : Prop where
  vars : ∀ s ∈ p, s.isVar → ∀ name kind, s.declared? = some (name, kind) →
    wider.lookup name = some kind
  others : ∀ s ∈ p, ¬ s.isVar → ∀ name kind, s.declared? = some (name, kind) → ¬ wider.Taken name
  distinct : p.declaredNames.Nodup

namespace Expects

variable {s : Statement} {ss : List Statement}

theorem tail (expects : Expects wider (s :: ss)) : Expects wider ss where
  vars := fun t member => expects.vars t (List.mem_cons_of_mem s member)
  others := fun t member => expects.others t (List.mem_cons_of_mem s member)
  distinct := expects.distinct.sublist ((List.sublist_cons_self s ss).filterMap _)

theorem after (expects : Expects wider (s :: ss)) (notVar : ¬ s.isVar) :
    Expects (after wider s) ss := by
  cases declared : s.declared? with
  | none =>
    rw [after_none declared]
    exact expects.tail
  | some found =>
    have free := expects.others s List.mem_cons_self notVar found.1 found.2 declared
    have once : ∀ t ∈ ss, ∀ name kind, t.declared? = some (name, kind) → name ≠ found.1 := by
      rintro t member name kind again rfl
      have distinct := expects.distinct
      rw [Program.declaredNames_cons, declared] at distinct
      refine (List.nodup_cons.mp distinct).1 ?_
      exact Program.mem_declaredNames.mpr ⟨t, member, kind, again⟩
    refine ⟨fun t member isVar name kind again => ?_, fun t member notVar name kind again => ?_,
      expects.tail.distinct⟩
    next =>
      rw [lookup_after declared free, if_neg (once t member name kind again)]
      exact expects.tail.vars t member isVar name kind again
    next =>
      rw [taken_after declared free, not_or]
      exact ⟨once t member name kind again, expects.tail.others t member notVar name kind again⟩

end Expects

theorem others_check {p : Program} (within : env.Within wider) (expects : Expects wider p)
    (clean : statements env p = []) :
    statements wider (p.filter (not ∘ Statement.isVar)) = [] := by
  induction p generalizing env wider with
  | nil => rfl
  | cons s ss ih =>
    obtain ⟨first, rest⟩ := List.append_eq_nil_iff.mp clean
    by_cases isVar : s.isVar
    next =>
      rw [List.filter_cons_of_neg (by simpa using isVar)]
      refine ih (fun name kind known => ?_) expects.tail rest
      cases declared : s.declared? with
      | none =>
        rw [after_none declared] at known
        exact within name kind known
      | some found =>
        rw [lookup_after declared (free_of_clean first declared)] at known
        split at known
        next same =>
          cases known
          rw [same]
          exact expects.vars s List.mem_cons_self isVar found.1 found.2 declared
        next => exact within name kind known
    next =>
      have free := expects.others s List.mem_cons_self isVar
      rw [List.filter_cons_of_pos (by simpa using isVar), statements,
        statement_widen within s free first, List.nil_append]
      refine ih ?_ (expects.after isVar) rest
      cases declared : s.declared? with
      | none =>
        rw [after_none declared, after_none declared]
        exact within
      | some found =>
        rw [after_eq, after_eq, declared]
        exact within.declare found.2 (free_of_clean first declared) (free _ _ declared)

theorem lookup_foldl_of_notMem {p : Program} {name : String} (absent : name ∉ p.declaredNames) :
    (p.foldl after env).lookup name = env.lookup name := by
  induction p generalizing env with
  | nil => rfl
  | cons s ss ih =>
    rw [Program.declaredNames_cons, List.mem_append, not_or] at absent
    rw [List.foldl_cons, ih absent.2]
    cases declared : s.declared? with
    | none => rw [after_none declared]
    | some found =>
      have different : name ≠ found.1 := by simpa [declared] using absent.1
      by_cases taken : env.Taken found.1
      next => rw [after_eq, declared, Option.elim_some, Environment.declare, if_pos taken]
      next => rw [lookup_after declared taken, if_neg different]

theorem lookup_foldl_of_mem {p : Program} (distinct : p.declaredNames.Nodup)
    (free : ∀ name ∈ p.declaredNames, ¬ env.Taken name) {s : Statement} (member : s ∈ p)
    {name : String} {kind : SymbolKind} (declared : s.declared? = some (name, kind)) :
    (p.foldl after env).lookup name = some kind := by
  induction p generalizing env with
  | nil => cases member
  | cons t ss ih =>
    rw [List.foldl_cons]
    rw [Program.declaredNames_cons] at distinct free
    obtain ⟨first, rest⟩ := List.forall_mem_append.mp free
    rcases List.mem_cons.mp member with rfl | later
    next =>
      rw [declared] at distinct first
      have once := (List.nodup_cons.mp distinct).1
      rw [lookup_foldl_of_notMem once, lookup_after declared (first name List.mem_cons_self),
        if_pos rfl]
    next =>
      refine ih (distinct.sublist (List.sublist_append_right _ _)) (fun other isOther => ?_) later
      cases found : t.declared? with
      | none =>
        rw [after_none found]
        exact rest other isOther
      | some own =>
        rw [found] at distinct first
        rw [taken_after found (first own.1 List.mem_cons_self), not_or]
        refine ⟨?_, rest other isOther⟩
        rintro rfl
        exact (List.nodup_cons.mp distinct).1 isOther

@[simp] theorem lookup_outermost (name : String) : Environment.outermost.lookup name = none := by
  rw [Environment.lookup, Environment.outermost, List.findSome?_cons, Finmap.lookup_empty]
  rfl

theorem expects_vars {p : Program} (distinct : p.declaredNames.Nodup)
    (free : ∀ name ∈ p.declaredNames, ¬ Environment.outermost.Taken name) :
    Expects ((p.filter Statement.isVar).foldl after .outermost) p where
  vars := by
    intro s member isVar name kind declared
    refine lookup_foldl_of_mem (distinct.sublist (List.filter_sublist.filterMap _))
      (fun other isOther => ?_) (List.mem_filter.mpr ⟨member, isVar⟩) declared
    exact free other (p.declaredNames_filter_subset _ isOther)
  others := by
    intro s member notVar name kind declared
    have isLate := (Program.mem_lateNames_iff distinct member declared).mpr notVar
    rintro (surface | known)
    next =>
      exact free name (Program.mem_declaredNames.mpr ⟨s, member, kind, declared⟩) (.inl surface)
    next =>
      rw [Environment.mem_innermost_iff (Check.foldl_after_outer ..), lookup_foldl_of_notMem,
        lookup_outermost] at known
      next => exact known rfl
      next => exact fun isVar => Program.disjoint_lateNames distinct isVar isLate
  distinct := distinct

theorem check_hoisted_eq {p : Program} (accepted : p.check = []) :
    p.hoisted.check = (p.filter Statement.isVar).flatMap (early p.lateNames) := by
  rw [check_eq_statements] at accepted
  obtain ⟨distinct, free⟩ := declaredNames_of_clean accepted
  have proper : ∀ name ∈ p.lateNames, ¬ isSurfaceName name := by
    intro name isLate surface
    exact free name (p.declaredNames_filter_subset _ isLate) (.inl surface)
  have sorted : ∀ s ∈ p, ∀ name kind, s.declared? = some (name, kind) →
      (name ∈ p.lateNames ↔ ¬ s.isVar) :=
    fun s member name kind => Program.mem_lateNames_iff distinct member
  have narrows : Narrows p.lateNames .outermost .outermost := ⟨rfl, by simp⟩
  have within :
      Environment.outermost.Within ((p.filter Statement.isVar).foldl after .outermost) := by
    intro name kind known
    rw [lookup_outermost] at known
    cases known
  rw [check_eq_statements, Program.hoisted, statements_append,
    vars_check proper sorted narrows accepted,
    others_check within (expects_vars distinct free) accepted, List.append_nil]

end Lexical

theorem Program.check_hoisted (p : Program) (accepted : p.check = []) :
    (∀ surface, p.hoisted.generate surface = p.generate surface) ∧
    p.hoisted.check = (p.filter Statement.isVar).flatMap (Lexical.early p.lateNames) ∧
    (p.hoisted.check = [] ↔ ∀ name type initial line, Statement.var name type initial line ∈ p →
      ∀ used ∈ initial.names, used ∉ p.lateNames) := by
  have errors := Lexical.check_hoisted_eq accepted
  refine ⟨p.generate_hoisted, errors, ?_⟩
  rw [errors, List.flatMap_eq_nil_iff]
  constructor
  next =>
    intro none name type initial line member used isUsed
    have own := none _ (List.mem_filter.mpr ⟨member, rfl⟩)
    simp only [Lexical.early, List.flatMap_eq_nil_iff, Lexical.require_eq_nil] at own
    exact own used isUsed
  next =>
    intro all s member
    obtain ⟨member, isVar⟩ := List.mem_filter.mp member
    cases s with
    | var name type initial line =>
      simp only [Lexical.early, List.flatMap_eq_nil_iff, Lexical.require_eq_nil]
      exact all name type initial line member
    | _ => cases isVar

def distanceProgram : Program :=
  [.var "a" none (.number (.int 1)) 1, .cursor "c" [.number (.int 2), .identifier "a"] 2,
    .var "b" none (.binary .add (.identifier "a") (.call "distance" [.identifier "c"])) 3]

theorem Program.check_hoisted_distance :
    distanceProgram.check = [] ∧ distanceProgram.hoisted.check = [⟨3, .undeclared "c"⟩] :=
  ⟨rfl, (check_hoisted distanceProgram rfl).2.1⟩

def cursorProgram : Program :=
  [.cursor "c" [.number (.int 1), .number (.int 2)] 1, .var "x" none (.identifier "c") 1]

theorem Program.check_hoisted_cursor :
    cursorProgram.check = [] ∧ cursorProgram.hoisted.check = [⟨1, .undeclared "c"⟩] ∧
    (cursorProgram.generate {}).map (fun code => (code.declarations, code.operations)) =
      .ok ("    float x = c;\n", "    Cursor* c = Cursor_Constructor(1, 2);\n") :=
  ⟨rfl, rfl, by decide +kernel⟩

end DrawScript
