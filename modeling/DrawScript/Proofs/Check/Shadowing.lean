import DrawScript.Code.Program
import DrawScript.Proofs.Check.Widening

set_option autoImplicit false

namespace DrawScript

namespace Lexical

variable {env : Environment}

namespace Environment

def distance? (env : Environment) (name : String) : Option Nat :=
  (env.innermost :: env.outer).findIdx? (name ∈ ·)

theorem distance?_declare_self {name : String} (kind : SymbolKind) (free : ¬ env.Taken name) :
    (env.declare kind name).distance? name = some 0 := by
  simp [distance?, innermost_declare kind free, List.findIdx?_cons]

theorem distance?_declare_of_ne {name other : String} (kind : SymbolKind)
    (free : ¬ env.Taken name) (different : other ≠ name) :
    (env.declare kind name).distance? other = env.distance? other := by
  simp [distance?, innermost_declare kind free, List.findIdx?_cons, different]

theorem distance?_of_sees {name : String} (free : ¬ env.Taken name) (seen : env.Sees name) :
    ∃ n, env.distance? name = some (n + 1) := by
  -- A name that can be seen but is still free belongs to an enclosing scope.
  obtain ⟨notSurface, absent⟩ := not_or.mp free
  have known : env.lookup name ≠ none := seen.resolve_left notSurface
  rw [lookup, List.findSome?_cons, Finmap.lookup_eq_none.mpr absent] at known
  obtain ⟨kind, found⟩ := Option.ne_none_iff_exists'.mp known
  obtain ⟨scope, isOuter, inScope⟩ := List.exists_of_findSome?_eq_some found
  have somewhere : (env.outer.findIdx? (name ∈ ·)).isSome := by
    rw [List.findIdx?_isSome, List.any_eq_true]
    exact ⟨scope, isOuter, by simpa using Finmap.mem_of_lookup_eq_some inScope⟩
  obtain ⟨n, index⟩ := Option.isSome_iff_exists.mp somewhere
  exact ⟨n, by simp [distance?, List.findIdx?_cons, absent, index]⟩

end Environment

end Lexical

def Program.places (p : Program) : List (Lexical.Environment × Statement) :=
  Lexical.places .outermost p

theorem Program.initial_names (p : Program) (accepted : p.check = []) :
    p.places.map Prod.snd = p.walk ∧
    ∀ env name type initial line, (env, Statement.var name type initial line) ∈ p.places →
      (name ∈ initial.names → ∃ n, env.distance? name = some (n + 1)) ∧
      ((∀ used ∈ initial.names, (env.declare .number name).distance? used = env.distance? used) ↔
        name ∉ initial.names) := by
  refine ⟨Lexical.places_snd .outermost p, ?_⟩
  intro env name type initial line member
  rw [Lexical.check_eq_statements] at accepted
  have clean := Lexical.places_clean p accepted _ member
  have free : ¬ env.Taken name := Lexical.free_of_clean clean rfl
  have shadows : name ∈ initial.names → ∃ n, env.distance? name = some (n + 1) := by
    intro mentioned
    have seen := (List.append_eq_nil_iff.mp clean).1
    rw [Lexical.expression_elsewhere env initial seen, Lexical.Environment.unseen_eq_nil] at seen
    exact Lexical.Environment.distance?_of_sees free (seen name mentioned)
  refine ⟨shadows, fun same mentioned => ?_, fun absent used isUsed => ?_⟩
  next =>
    obtain ⟨n, outside⟩ := shadows mentioned
    have inside := same name mentioned
    rw [Lexical.Environment.distance?_declare_self .number free, outside] at inside
    cases inside
  next =>
    refine Lexical.Environment.distance?_declare_of_ne .number free ?_
    rintro rfl
    exact absent isUsed

-- The block stands in a scope of its own; the variable around it is one scope further out.
theorem Program.initial_names_nested :
    ∃ (p : Program) (env : Lexical.Environment) (initial : Expr),
      p = [.var "x" none (.number (.int 1)) 1,
        .block ⟨[.var "x" none initial 1], 1⟩] ∧
      initial = .binary .add (.identifier "x") (.number (.int 1)) ∧
      p.check = [] ∧ (env, .var "x" none initial 1) ∈ p.places ∧ "x" ∈ initial.names ∧
      (∃ n, env.distance? "x" = some (n + 1)) ∧
      ¬ ∀ used ∈ initial.names, (env.declare .number "x").distance? used = env.distance? used := by
  refine ⟨_, (Lexical.Environment.outermost.declare .number "x").opened, _, rfl, rfl, rfl, ?_⟩
  have member : ((Lexical.Environment.outermost.declare .number "x").opened,
      Statement.var "x" none (.binary .add (.identifier "x") (.number (.int 1))) 1) ∈
        Program.places [.var "x" none (.number (.int 1)) 1,
          .block ⟨[.var "x" none (.binary .add (.identifier "x") (.number (.int 1))) 1], 1⟩] :=
    .tail _ (.tail _ (.head _))
  have mentioned : "x" ∈ (Expr.binary .add (.identifier "x") (.number (.int 1))).names := by decide
  obtain ⟨shadows, same⟩ := (initial_names _ rfl).2 _ _ _ _ _ member
  exact ⟨member, mentioned, shadows mentioned, fun all => same.mp all mentioned⟩

theorem Program.check_own_name :
    ∃ (p : Program) (initial : Expr),
      p = [.var "x" (some "int") (.number (.int 1)) 1, .block ⟨[.var "x" none initial 1], 1⟩] ∧
      initial = .binary .add (.identifier "x") (.number (.int 1)) ∧
      p.check = [] ∧ .var "x" none initial 1 ∈ p.walk ∧ "x" ∈ initial.names ∧
      (p.generate {}).map (fun code => (code.declarations, code.operations)) =
        .ok ("    int x = 1;\n", "    \x7b\n        float x = x + 1;\n    \x7d\n") :=
  ⟨_, _, rfl, rfl, rfl, .tail _ (.tail _ (.head _)), by decide, by decide +kernel⟩

end DrawScript
