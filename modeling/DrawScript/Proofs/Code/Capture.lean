import DrawScript.Compile
import DrawScript.Proofs.Check.Scopes
import DrawScript.Proofs.Code.Drawings
import DrawScript.Proofs.Code.Rendering

set_option autoImplicit false

namespace DrawScript

open Catalogue

namespace Expr

theorem surfaceMacro_eq {name : String} (proper : ¬ isSurfaceName name) :
    surfaceMacro name = name := by
  rw [← Code.surfaceName?_getD, Option.not_isSome_iff_eq_none.mp proper, Option.getD_none]

mutual
theorem onSurface_names : ∀ e : Expr, e.onSurface.names = e.names.map surfaceMacro
  | .call callee arguments => by
    rw [onSurface, names_call, names_call, onSurfaceAll_names arguments]
  | .binary op left right => by
    rw [onSurface, names_binary, names_binary, List.map_append, onSurface_names left,
      onSurface_names right]
  | .unary op operand => by rw [onSurface, names_unary, names_unary, onSurface_names operand]
  | .identifier _ | .number _ | .string _ | .boolean _ => rfl

theorem onSurfaceAll_names :
    ∀ es, (onSurfaceAll es).flatMap names = (es.flatMap names).map surfaceMacro
  | [] => rfl
  | e :: es => by
    rw [onSurfaceAll, List.flatMap_cons, List.flatMap_cons, List.map_append, onSurface_names e,
      onSurfaceAll_names es]
end

end Expr

namespace Code

open Lexical

-- The names that the code has of its own: variables of the finished function in every drawing, and
-- macros of the header for the size of the surface.
def frameNames : List String := ["renderer", "filename", "file", "drawing_index"]

def macroNames : List String := surfaceNames.map Prod.snd

inductive Meaning where
  | size
  | frame
  | script (distance : Nat)
  | nothing
  deriving DecidableEq

/-- What a name stands for in C. A macro is replaced wherever it stands, and the scopes of a script
lie inside the function. -/
def meaning (env : Environment) (name : String) : Meaning :=
  if name ∈ macroNames then .size
  else match env.distance? name with
    | some distance => .script distance
    | none => if name ∈ frameNames then .frame else .nothing

theorem surfaceMacro_mem {name : String} (surface : isSurfaceName name) :
    Expr.surfaceMacro name ∈ macroNames := by
  obtain ⟨macroName, found⟩ := Option.isSome_iff_exists.mp surface
  rw [← surfaceName?_getD, found, Option.getD_some]
  obtain ⟨before, after, split, -⟩ := List.lookup_eq_some_iff.mp found
  rw [macroNames, split]
  simp

mutual
theorem render_onSurface (line : Nat) : ∀ e : Expr, render line e.onSurface = render line e
  | .call callee arguments => by
    rw [Expr.onSurface, render, render, renderAll_onSurface line arguments]
  | .binary op left right => by
    rw [Expr.onSurface, render, render, render_onSurface line left, render_onSurface line right]
  | .unary op operand => by rw [Expr.onSurface, render, render, render_onSurface line operand]
  | .identifier name => by
    rw [Expr.onSurface, render, render, surfaceName?_getD, surfaceName?_getD]
    by_cases surface : isSurfaceName name
    next =>
      have replaced : ∀ macroName ∈ macroNames, Expr.surfaceMacro macroName = macroName := by
        decide
      rw [replaced _ (surfaceMacro_mem surface)]
    next => rw [Expr.surfaceMacro_eq surface, Expr.surfaceMacro_eq surface]
  | .number _ | .string _ | .boolean _ => rfl

theorem renderAll_onSurface (line : Nat) :
    ∀ es : List Expr, renderAll line (Expr.onSurfaceAll es) = renderAll line es
  | [] => rfl
  | e :: es => by
    have alone (text : String) : bare e.onSurface text = bare e text := by cases e <;> rfl
    simp only [Expr.onSurfaceAll, renderAll, render_onSurface line e, renderAll_onSurface line es,
      alone]
end

end Code

namespace Program

open Lexical

theorem mem_hoisted {p : Program} {s : Statement} : s ∈ p.hoisted ↔ s ∈ p :=
  (List.filter_append_perm Statement.isVar p).mem_iff

theorem mem_declaredNames_hoisted {p : Program} {name : String} :
    name ∈ p.hoisted.declaredNames ↔ name ∈ p.declaredNames := by
  simp only [mem_declaredNames, mem_hoisted]

theorem mem_walk_hoisted {p : Program} {s : Statement} : s ∈ p.hoisted.walk ↔ s ∈ p.walk := by
  simp only [walk, Statement.mem_walkAll, mem_hoisted]

theorem mem_walk_of_place {p : Program} {env : Environment} {s : Statement}
    (place : (env, s) ∈ p.places) : s ∈ p.walk := by
  rw [walk, ← places_snd .outermost p]
  exact List.mem_map_of_mem place

theorem place_of_mem_walk {p : Program} {s : Statement} (member : s ∈ p.walk) :
    ∃ env, (env, s) ∈ p.places := by
  rw [walk, ← places_snd .outermost p] at member
  obtain ⟨⟨env, _⟩, place, rfl⟩ := List.mem_map.mp member
  exact ⟨env, place⟩

theorem covered_hoisted {p : Program} {property : Statement → Prop} {name : String}
    (nested : name ∉ p.declaredNames) :
    Covered property name p.hoisted.scopes ↔ Covered property name p.scopes := by
  have still : name ∉ p.hoisted.declaredNames :=
    fun isTop => nested (mem_declaredNames_hoisted.mp isTop)
  simp only [covered_scopes nested, covered_scopes still, mem_hoisted]

theorem declared_of_declaredNames {p : Program} {name : String} (isTop : name ∈ p.declaredNames) :
    Among (name ∈ ·.declares) p.walk := by
  obtain ⟨s, member, kind, declared⟩ := mem_declaredNames.mp isTop
  refine ⟨s, Statement.mem_walkAll.mpr ⟨s, member, List.mem_cons_self⟩, ?_⟩
  exact s.newNames_subset_declares (Statement.mem_newNames.mpr ⟨kind, declared⟩)

end Program

namespace Code

open Lexical

variable {env : Environment} {name : String}

theorem meaning_frame (isFrame : name ∈ frameNames) :
    meaning env name = .frame ↔ ¬ env.Knows name := by
  have apart : ∀ name ∈ frameNames, name ∉ macroNames := by decide
  rw [meaning, if_neg (apart name isFrame), ← Environment.distance?_eq_none]
  cases env.distance? name with
  | none => simp [isFrame]
  | some distance => simp

theorem meaning_after {s : Statement} (proper : ¬ isSurfaceName name) (isNew : name ∈ s.newNames) :
    meaning (after env s) name = .script 0 ↔ name ∉ macroNames := by
  have nearest : (after env s).distance? name = some 0 := by
    obtain ⟨kind, declared⟩ := Statement.mem_newNames.mp isNew
    rw [after_eq, declared, Option.elim_some]
    by_cases taken : env.Taken name
    next =>
      have member : name ∈ env.innermost := taken.resolve_left proper
      rw [Environment.declare, if_pos taken]
      simp [Environment.distance?, List.findIdx?_cons, member]
    next => exact Environment.distance?_declare_self kind taken
  rw [meaning, nearest]
  split
  next isMacro => simp [isMacro]
  next notMacro => simp [notMacro]

end Code

theorem Statement.declares_eq {s : Statement} (form : s.HasForm) : s.declares = s.newNames := by
  cases s with
  | function => exact form.elim
  | _ => rfl

open Code Lexical

/-- The six names that the code has of its own are not taken by the script. Whatever else the names
of a script may stand for in C is left open. -/
structure Program.KeepsOwnNames (p : Program) : Prop where
  -- In C the outermost level shares its scope with the variables of the function.
  apart : ∀ name ∈ frameNames, name ∉ p.declaredNames
  drawn : ∀ env s, (env, s) ∈ p.hoisted.places → s.isDrawing → ∀ name ∈ frameNames,
    meaning env name = .frame
  -- A variable with the name of a macro would be declared under what the macro stands for.
  declared : ∀ env s, (env, s) ∈ p.hoisted.places → ∀ name ∈ s.declares,
    name ∈ frameNames ++ macroNames → meaning (after env s) name = .script 0

namespace Program

theorem declares_proper {p : Program} (accepted : p.check = []) (formed : ∀ s ∈ p.walk, s.HasForm)
    {s : Statement} (member : s ∈ p.walk) {name : String} (declared : name ∈ s.declares) :
    ¬ isSurfaceName name := by
  obtain ⟨env, place⟩ := place_of_mem_walk member
  rw [check_eq_statements] at accepted
  have clean := places_clean p accepted _ place
  rw [Statement.declares_eq (formed s member)] at declared
  obtain ⟨kind, isNew⟩ := Statement.mem_newNames.mp declared
  exact fun surface => free_of_clean clean isNew (.inl surface)

theorem drawn_iff {p : Program} {name : String} (isFrame : name ∈ frameNames)
    (apart : name ∉ p.declaredNames) :
    (∀ env s, (env, s) ∈ p.hoisted.places → s.isDrawing → meaning env name = .frame) ↔
      ¬ Covered (Statement.isDrawing ·) name p.scopes := by
  have proper : ∀ name ∈ frameNames, ¬ isSurfaceName name := by decide
  have met : Met (Statement.isDrawing ·) name p.hoisted.places ↔
      Covered (Statement.isDrawing ·) name p.scopes := by
    rw [Program.places, places_met (proper name isFrame), ← covered_hoisted apart]
    exact or_iff_right fun outside => Environment.not_knows_outermost outside.1
  rw [← met, Met]
  simp only [meaning_frame isFrame, Prod.exists, not_exists, not_and]

theorem keepsOwnNames_iff {p : Program} (accepted : p.check = [])
    (formed : ∀ s ∈ p.walk, s.HasForm) :
    p.KeepsOwnNames ↔
      (∀ s ∈ p.walk, ∀ name ∈ s.declares, name ∉ macroNames) ∧
      ∀ name ∈ frameNames,
        name ∉ p.declaredNames ∧ ¬ Covered (Statement.isDrawing ·) name p.scopes := by
  have isNew {s : Statement} (member : s ∈ p.walk) {name : String} (declared : name ∈ s.declares)
      (env : Environment) : meaning (after env s) name = .script 0 ↔ name ∉ macroNames := by
    have proper := declares_proper accepted formed member declared
    rw [Statement.declares_eq (formed s member)] at declared
    exact meaning_after proper declared
  constructor
  next =>
    intro keeps
    refine ⟨fun s member name declared isMacro => ?_, fun name isFrame => ?_⟩
    next =>
      obtain ⟨env, place⟩ := place_of_mem_walk (mem_walk_hoisted.mpr member)
      have own := keeps.declared env s place name declared (List.mem_append_right _ isMacro)
      exact (isNew member declared env).mp own isMacro
    next =>
      have apart := keeps.apart name isFrame
      refine ⟨apart, (drawn_iff isFrame apart).mp fun env s place draws => ?_⟩
      exact keeps.drawn env s place draws name isFrame
  next =>
    rintro ⟨noMacro, noFrame⟩
    refine ⟨fun name isFrame => (noFrame name isFrame).1, ?_, ?_⟩
    next =>
      intro env s place draws name isFrame
      obtain ⟨apart, uncovered⟩ := noFrame name isFrame
      exact (drawn_iff isFrame apart).mpr uncovered env s place draws
    next =>
      intro env s place name declared _
      have member := mem_walk_hoisted.mp (mem_walk_of_place place)
      exact (isNew member declared env).mpr (noMacro s member name declared)

theorem drawings_snd (p : Program) :
    p.drawings.map Prod.snd = (p.hoisted.places.map Prod.snd).filter Statement.isDrawing := by
  have walked (ss others : List Statement) :
      Statement.walkAll (ss ++ others) = Statement.walkAll ss ++ Statement.walkAll others := by
    induction ss with
    | nil => rfl
    | cons s ss ih => simp [Statement.walkAll, ih]
  have silent : (Statement.walkAll (p.filter Statement.isVar)).filter Statement.isDrawing = [] :=
    List.filter_eq_nil_iff.mpr fun s member => by simp [(idle_of_isVar p s member).draws]
  rw [drawings, filter_visits_snd, Program.places, places_snd, hoisted, walked,
    List.filter_append, silent, List.nil_append]

theorem lowerable_of_generate {p : Program} {surface : Surface} {code : GeneratedCode}
    (accepted : p.check = []) (generated : p.generate surface = .ok code) : Lowerable p.walk := by
  have settled := generate_settled (clean_of_check accepted) surface
  rwa [generated] at settled

end Program

theorem exists_of_isSome {ε α : Type} {result : Except ε α} (succeeds : result.toOption.isSome) :
    ∃ value, result = .ok value := by
  cases result with
  | error error => cases succeeds
  | ok value => exact ⟨value, rfl⟩

theorem checked_of_compile {target : Target} {surface : Surface} {script : String}
    {code : GeneratedCode} (compiled : compileScript target surface script = .ok code) :
    ∃ p, checkScript script = .ok p ∧ p.check = [] ∧ p.generate surface = .ok code := by
  cases checked : checkScript script with
  | error error => simp [compileScript, checked, bind, Except.bind] at compiled
  | ok p =>
    refine ⟨p, rfl, ?_, ?_⟩
    next =>
      cases parsed : parseScript script with
      | error error => simp [checkScript, parsed, bind, Except.bind] at checked
      | ok q =>
        simp only [checkScript, parsed, bind, Except.bind] at checked
        split at checked
        next => cases checked
        next accepted =>
          cases checked
          exact not_not.mp accepted
    next =>
      cases target
      simp only [compileScript, checked, bind, Except.bind, generateFor] at compiled
      cases generated : p.generate surface with
      | error error => simp [generated, Except.mapError] at compiled
      | ok found =>
        rw [generated] at compiled
        cases compiled
        rfl

theorem compileScript_names {target : Target} {surface : Surface} {script : String}
    {code : GeneratedCode} (compiled : compileScript target surface script = .ok code) :
    ∃ p, checkScript script = .ok p ∧
      (∃ passages, code.operations = written passages ∧
        Lowers 1 [] (p.filter (not ∘ Statement.isVar)) passages ∧
        List.Forall₂ (fun s passage => passage.source = s ∧ ∃ pen, Drawn pen s passage.texts)
          ((p.hoisted.places.map Prod.snd).filter Statement.isDrawing)
          (passages.filter (·.source.isDrawing))) ∧
      (∀ line e, render line e.onSurface = render line e ∧
        e.onSurface.names = e.names.map Expr.surfaceMacro) ∧
      (∀ s ∈ p.walk, ∀ name ∈ s.declares, ¬ isSurfaceName name) ∧
      (p.KeepsOwnNames ↔
        (∀ s ∈ p.walk, ∀ name ∈ s.declares, name ∉ macroNames) ∧
        ∀ name ∈ frameNames,
          name ∉ p.declaredNames ∧ ¬ Covered (Statement.isDrawing ·) name p.scopes) ∧
      ((∀ s ∈ p.walk, ∀ name ∈ s.declares, name ∉ frameNames ++ macroNames) →
        p.KeepsOwnNames) := by
  obtain ⟨p, checked, accepted, generated⟩ := checked_of_compile compiled
  have lowerable := Program.lowerable_of_generate accepted generated
  have formed : ∀ s ∈ p.walk, s.HasForm := fun s member => (lowerable s member).1
  have keeps := Program.keepsOwnNames_iff accepted formed
  refine ⟨p, checked, ?_, fun line e => ⟨render_onSurface line e, e.onSurface_names⟩,
    fun s member name => Program.declares_proper accepted formed member, keeps, ?_⟩
  next =>
    obtain ⟨-, passages, -, shown, -, lowers⟩ := p.generate_lowers generated
    refine ⟨passages, shown, lowers, ?_⟩
    rw [← p.drawings_snd, List.forall₂_map_left_iff]
    exact lowers.drawn.imp fun visit passage ⟨source, drawn⟩ => ⟨source, visit.1, drawn⟩
  next =>
    intro apart
    simp only [List.mem_append, not_or] at apart
    refine keeps.mpr ⟨fun s member name declared => (apart s member name declared).2, ?_⟩
    intro name isFrame
    constructor
    next =>
      intro isTop
      obtain ⟨s, member, declared⟩ := Program.declared_of_declaredNames isTop
      exact (apart s member name declared).1 isFrame
    next =>
      intro covered
      obtain ⟨s, member, declared⟩ := scopes_declared p covered
      exact (apart s member name declared).1 isFrame

-- A variable of the script beside a drawing does no harm, around one it takes the name.
def besideDrawing : String := "\x7b var renderer = CANVAS_WIDTH; \x7d drawPoint(1, 2);"

def aroundDrawing : String := "\x7b var renderer = CANVAS_WIDTH; drawPoint(1, 2); \x7d"

theorem compileScript_names_block :
    ∃ p q : Program, checkScript besideDrawing = .ok p ∧ checkScript aroundDrawing = .ok q ∧
      p.KeepsOwnNames ∧ ¬ q.KeepsOwnNames ∧
      (compileScript .c {} aroundDrawing).map GeneratedCode.operations =
        .ok ("    \x7b\n" ++
          "        float renderer = SCREEN_WIDTH;\n" ++
          "        sprintf(filename, \"Data/Outputs/drawing_%d.bmp\", drawing_index);\n" ++
          "        drawPoint(renderer, 1, 2, 0, 0, 0, 255, filename);\n" ++
          "        fprintf(file, \"%d %d\\n\", (int)(1), (int)(2));\n" ++
          "        drawing_index++;\n" ++
          "    \x7d\n") := by
  obtain ⟨_, compiled⟩ : ∃ code, compileScript .c {} besideDrawing = .ok code :=
    exists_of_isSome (by decide +kernel)
  obtain ⟨_, compiled'⟩ : ∃ code, compileScript .c {} aroundDrawing = .ok code :=
    exists_of_isSome (by decide +kernel)
  obtain ⟨p, checked, -, -, -, keeps, -⟩ := compileScript_names compiled
  obtain ⟨q, checked', -, -, -, keeps', -⟩ := compileScript_names compiled'
  refine ⟨p, q, checked, checked', keeps.mpr ?_, fun whole => ?_, by decide +kernel⟩
  next =>
    have clear : ∀ p ∈ (checkScript besideDrawing).toOption,
        (∀ s ∈ p.walk, ∀ name ∈ s.declares, name ∉ macroNames) ∧
        ∀ name ∈ frameNames,
          name ∉ p.declaredNames ∧ ¬ Covered (Statement.isDrawing ·) name p.scopes := by
      decide +kernel
    exact clear p (by rw [checked]; rfl)
  next =>
    have taken : ∀ p ∈ (checkScript aroundDrawing).toOption,
        Covered (Statement.isDrawing ·) "renderer" p.scopes := by
      decide +kernel
    exact ((keeps'.mp whole).2 "renderer" (by decide)).2 (taken q (by rw [checked']; rfl))

-- A drawing with a variable of the script in the place of the function's, and no name of the code
-- that a script could not declare.
theorem compileScript_own_names :
    (compileScript .c {} "var renderer = 1; drawPoint(1, 2);").map
        (fun code => (code.declarations, code.operations)) =
      .ok ("    int renderer = 1;\n",
        "    sprintf(filename, \"Data/Outputs/drawing_%d.bmp\", drawing_index);\n" ++
        "    drawPoint(renderer, 1, 2, 0, 0, 0, 255, filename);\n" ++
        "    fprintf(file, \"%d %d\\n\", (int)(1), (int)(2));\n" ++
        "    drawing_index++;\n") ∧
    ∀ name ∈ frameNames ++ macroNames,
      (compileScript .c {} ("var " ++ name ++ " = 1;")).map GeneratedCode.declarations =
        .ok ("    int " ++ name ++ " = 1;\n") := by
  constructor
  next => decide +kernel
  next => decide +kernel

end DrawScript
