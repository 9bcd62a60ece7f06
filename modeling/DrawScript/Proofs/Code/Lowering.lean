import DrawScript.Proofs.Check.Accepted
import DrawScript.Proofs.Code.Emission

set_option autoImplicit false

namespace DrawScript.Code

open Catalogue

theorem drawsNothing_of_constants {arguments : List Expr}
    (constant : ∀ e ∈ arguments, e.isConstant) : True ↔ ∀ e ∈ arguments, e.DrawsNothing :=
  iff_of_true trivial fun e member => drawsNothing_of_isConstant (constant e member)

theorem drawStatement_settles {function : DrawFunction} {arguments : List Expr} (line : Nat)
    (fitting : Lexical.Fitting function.arity function.action.needsConstants arguments) :
    Settles (drawStatement function arguments line) (∀ e ∈ arguments, e.DrawsNothing) := by
  obtain ⟨-, constant⟩ := fitting
  cases action : function.action with
  | setColor =>
    have constant := constant (by rw [action]; rfl)
    obtain ⟨color, found⟩ := colorOf_of_isConstant function.name line constant
    simp only [drawStatement, action, found]
    exact (Settles.update _).iff (drawsNothing_of_constants constant)
  | setThickness =>
    have constant := constant (by rw [action]; rfl)
    cases arguments with
    | nil =>
      simp only [drawStatement, action]
      exact Settles.pure.iff (drawsNothing_of_constants constant)
    | cons first others =>
      obtain ⟨thickness, value⟩ := Option.isSome_iff_exists.mp (constant first List.mem_cons_self)
      simp only [drawStatement, action, Code.constant, value]
      exact (Settles.update _).iff (drawsNothing_of_constants constant)
  | shape routine thickness =>
    simp only [drawStatement, action]
    exact (renderAll_settles line arguments).and_then fun texts =>
      .get fun sheet => .emitDrawing _ _ _

theorem methodStatement_settles {cursor name : String} {arguments : List Expr} {line : Nat}
    (clean : Lexical.Clean (.method cursor name arguments line)) :
    Settles (methodStatement cursor name arguments line) (∀ e ∈ arguments, e.DrawsNothing) := by
  obtain ⟨method, known, -, constant⟩ := clean.method
  have texts := renderAll_settles line arguments
  cases action : method.action with
  | draw =>
    simp only [methodStatement, known, action]
    exact texts.and_then fun _ => .emitDrawing _ _ _
  | setColor =>
    have constant := constant (by rw [action]; rfl)
    obtain ⟨color, found⟩ := colorOf_of_isConstant name line constant
    simp only [methodStatement, known, action, found]
    exact (Settles.emitLine _).iff (drawsNothing_of_constants constant)
  | move | rotate | setThickness =>
    simp only [methodStatement, known, action]
    exact texts.and_then fun _ => .emitLine _

theorem lowerable_cons {s : Statement} {ss : List Statement} :
    Lowerable (s :: ss) ↔ (s.HasForm ∧ ∀ e ∈ s.values, e.DrawsNothing) ∧ Lowerable ss :=
  List.forall_mem_cons

theorem lowerable_append {ss others : List Statement} :
    Lowerable (ss ++ others) ↔ Lowerable ss ∧ Lowerable others :=
  List.forall_mem_append

theorem lowerable_nil : Lowerable [] := List.forall_mem_nil _

theorem foreseen_unsupported (s : Statement) : Foreseen (unsupported s) := by
  cases s <;> simp [Foreseen, unsupported, Statement.kindName]

theorem unsupported_settles {s : Statement} (formless : ¬ s.HasForm) (ss : List Statement) :
    Settles (throw (unsupported s) : Writer Unit) (Lowerable (s :: ss)) := by
  apply (Settles.throw (foreseen_unsupported s)).iff
  rw [lowerable_cons]
  exact iff_of_false id fun lowerable => formless lowerable.1.1

theorem Settles.simple {writer : Writer Unit} {s : Statement}
    (settles : Settles writer (∀ e ∈ s.values, e.DrawsNothing)) (form : s.HasForm) :
    Settles writer (Lowerable [s]) := by
  apply settles.iff
  simp [form, Lowerable]

theorem values_expression {value : Expr} {line : Nat} (plain : ¬ value.IsDrawing) :
    (∀ e ∈ (Statement.expression value line).values, e.DrawsNothing) ↔ value.DrawsNothing := by
  cases value with
  | call callee arguments =>
    have unknown : drawFunction? callee = none := by simpa [Expr.IsDrawing] using plain
    simp [Statement.values, unknown]
  | _ => simp [Statement.values]

theorem expressionStatement_settles {value : Expr} {line : Nat}
    (clean : Lexical.Clean (.expression value line)) :
    Settles (expressionStatement value line) (Lowerable [.expression value line]) := by
  refine Settles.simple ?_ (by trivial)
  by_cases drawing : value.IsDrawing
  next =>
    cases value with
    | call callee arguments =>
      obtain ⟨function, known⟩ := Option.isSome_iff_exists.mp drawing
      simp only [expressionStatement, known]
      exact drawStatement_settles line (clean.call known)
    | _ => cases drawing
  next =>
    rw [expressionStatement_plain line drawing, values_expression drawing]
    exact (renderBare_settles line value).and_then fun _ => .emitLine _

theorem forInitial_settles (initial : Option Statement) :
    Settles (ofExcept (forInitial initial))
      ((Statement.StartsLoop initial ∧ ∀ e ∈ Statement.initialValues initial, e.DrawsNothing) ∧
        Lowerable (Statement.walkInitial initial)) := by
  cases initial with
  | none =>
    exact Settles.pure.iff (by simp [Statement.StartsLoop, Statement.initialValues,
      Statement.walkInitial, Lowerable])
  | some s =>
    cases s with
    | var name type initial line =>
      apply (declaration_settles name type initial line).iff
      simp [Statement.StartsLoop, Statement.initialValues, Statement.walkInitial, Statement.inner,
        Lowerable, Statement.HasForm, Statement.values]
    | expression value line =>
      have inside (nothing : value.DrawsNothing) :
          Lowerable (Statement.walkInitial (some (.expression value line))) := by
        simpa [Statement.walkInitial, Statement.inner, Lowerable, Statement.HasForm] using
          (values_expression (nothing value List.mem_cons_self)).mpr nothing
      apply (renderBare_settles line value).iff
      simpa [Statement.StartsLoop, Statement.initialValues] using inside
    | _ => exact (Settles.throw (foreseen_unsupported _)).iff (by simp [Statement.StartsLoop])

theorem forHead_settles (initial : Option Statement) (condition increment : Option Expr)
    (line : Nat) :
    Settles (ofExcept (forHead initial condition increment line))
      (((Statement.StartsLoop initial ∧ ∀ e ∈ Statement.initialValues initial, e.DrawsNothing) ∧
          Lowerable (Statement.walkInitial initial)) ∧
        (∀ e ∈ condition.toList, e.DrawsNothing) ∧ ∀ e ∈ increment.toList, e.DrawsNothing) := by
  rw [forHead, ofExcept_bind]
  apply (forInitial_settles initial).bind
  intro initialText _
  rw [ofExcept_bind]
  apply (renderOptional_settles line condition).bind
  intro conditionText _
  rw [ofExcept_bind]
  exact (renderOptional_settles line increment).and_then fun _ => .pure

mutual
theorem statement_settles :
    ∀ s : Statement, (∀ x ∈ s.walk, Lexical.Clean x) → Settles (statement s) (Lowerable s.walk)
  | .var name type initial line => by
    intro _
    rw [statement]
    refine Settles.simple ?_ (by trivial)
    rw [Statement.values, List.forall_mem_singleton]
    exact (declaration_settles name type initial line).and_then fun _ => .emitLine _
  | .cursor name arguments line => by
    intro _
    rw [statement]
    refine Settles.simple ?_ (by trivial)
    exact (renderAll_settles line arguments).and_then fun _ => .emitLine _
  | .ifElse condition thenBlock elseBlock line => by
    intro clean
    obtain ⟨_, inside⟩ := List.forall_mem_cons.mp clean
    obtain ⟨thens, elses⟩ := List.forall_mem_append.mp inside
    rw [statement, Statement.walk, lowerable_cons, Statement.inner, lowerable_append]
    refine ((renderBare_settles line condition).bind fun test _ => .after_emitLine <|
      (block_settles thenBlock thens).bind fun _ _ => otherwise_settles elseBlock elses).iff ?_
    simp [Statement.HasForm, Statement.values]
  | .forLoop initial condition increment body line => by
    intro clean
    obtain ⟨_, inside⟩ := List.forall_mem_cons.mp clean
    obtain ⟨_, repeated⟩ := List.forall_mem_append.mp inside
    rw [statement, Statement.walk, lowerable_cons, Statement.inner, lowerable_append]
    refine ((forHead_settles initial condition increment line).bind fun head _ =>
      .after_emitLine (block_settles body repeated)).iff ?_
    simp only [Statement.HasForm, Statement.values, List.forall_mem_append]
    tauto
  | .whileLoop condition body line => by
    intro clean
    obtain ⟨_, inside⟩ := List.forall_mem_cons.mp clean
    rw [statement, Statement.walk, lowerable_cons]
    refine ((renderBare_settles line condition).bind fun test _ =>
      .after_emitLine (block_settles body inside)).iff ?_
    simp [Statement.HasForm, Statement.values, Statement.inner]
  | .doWhile body condition line => by
    intro clean
    obtain ⟨_, inside⟩ := List.forall_mem_cons.mp clean
    rw [statement, Statement.walk, lowerable_cons]
    apply Settles.after_emitLine
    refine ((block_settles body inside).bind fun _ _ =>
      (renderBare_settles line condition).and_then fun test => .emitLine _).iff ?_
    simp [Statement.HasForm, Statement.values, Statement.inner, and_comm]
  | .method cursor name arguments line => by
    intro clean
    rw [statement]
    exact (methodStatement_settles (clean _ List.mem_cons_self)).simple (by trivial)
  | .block body => by
    intro clean
    obtain ⟨_, inside⟩ := List.forall_mem_cons.mp clean
    rw [statement, Statement.walk, lowerable_cons]
    apply (block_settles body inside).iff
    simp [Statement.HasForm, Statement.values, Statement.inner]
  | .expression value line => by
    intro clean
    rw [statement]
    exact expressionStatement_settles (clean _ List.mem_cons_self)
  | .empty line => by
    intro _
    rw [statement]
    refine Settles.simple ?_ (by trivial)
    exact Settles.pure.iff (by simp [Statement.values])
  | .function name parameters body line => fun _ => unsupported_settles id _
  | .returnValue value line => fun _ => unsupported_settles id _
  | .copy source destination line => fun _ => unsupported_settles id _
  | .animate first second body line => fun _ => unsupported_settles id _

theorem block_settles :
    ∀ b, (∀ x ∈ Statement.walkBlock b, Lexical.Clean x) →
      Settles (block b) (Lowerable (Statement.walkBlock b))
  | ⟨body, _⟩ => by
    intro clean
    rw [block]
    apply Settles.after_emitLine
    apply Settles.after_update
    exact (statements_settles body clean).and_then fun _ => .after_update (.emitLine _)

theorem otherwise_settles :
    ∀ b, (∀ x ∈ Statement.walkOtherwise b, Lexical.Clean x) →
      Settles (otherwise b) (Lowerable (Statement.walkOtherwise b))
  | none => fun _ => Settles.pure.iff (iff_of_true trivial lowerable_nil)
  | some body => by
    intro clean
    rw [otherwise]
    exact .after_emitLine (block_settles body clean)

theorem statements_settles :
    ∀ ss, (∀ x ∈ Statement.walkAll ss, Lexical.Clean x) →
      Settles (statements ss) (Lowerable (Statement.walkAll ss))
  | [] => fun _ => Settles.pure.iff (iff_of_true trivial lowerable_nil)
  | s :: ss => by
    intro clean
    obtain ⟨first, later⟩ := List.forall_mem_append.mp clean
    rw [statements, Statement.walkAll, lowerable_append]
    exact (statement_settles s first).bind fun _ _ => statements_settles ss later
end

theorem forall_walk_partition {p : Program} {property : Statement → Prop} :
    (∀ x ∈ p.walk, property x) ↔
      (∀ x ∈ Statement.walkAll (p.filter Statement.isVar), property x) ∧
        ∀ x ∈ Statement.walkAll (p.filter (not ∘ Statement.isVar)), property x := by
  simp only [Program.walk, Statement.mem_walkAll, List.mem_filter]
  constructor
  next =>
    intro all
    constructor
    next =>
      rintro x ⟨s, ⟨member, _⟩, inside⟩
      exact all x ⟨s, member, inside⟩
    next =>
      rintro x ⟨s, ⟨member, _⟩, inside⟩
      exact all x ⟨s, member, inside⟩
  next =>
    rintro ⟨first, second⟩ x ⟨s, member, inside⟩
    by_cases declared : s.isVar
    next => exact first x ⟨s, ⟨member, declared⟩, inside⟩
    next => exact second x ⟨s, ⟨member, by simpa using declared⟩, inside⟩

theorem sections_settles {p : Program} (clean : ∀ s ∈ p.walk, Lexical.Clean s) :
    Settles (sections p) (Lowerable p.walk) := by
  obtain ⟨first, second⟩ := forall_walk_partition.mp clean
  rw [sections, List.partition_eq_filter_filter, Lowerable, forall_walk_partition]
  apply Settles.after_update
  apply (statements_settles _ first).bind
  intro _ _
  have taken {next : String → Writer (String × String)} {condition : Prop}
      (rest : ∀ text, Settles (next text) condition) : Settles (takeOutput >>= next) condition :=
    fun sheet => rest sheet.output { sheet with output := "" }
  apply taken
  intro declarations
  exact (statements_settles _ second).and_then fun _ => taken fun operations => .pure

theorem length_of_renderAll {line : Nat} {es : List Expr} {texts : List String}
    (rendered : renderAll line es = .ok texts) : texts.length = es.length := by
  induction es generalizing texts with
  | nil =>
    cases rendered
    rfl
  | cons e es ih =>
    cases first : render line e with
    | error error => simp [renderAll, first, bind, Except.bind] at rendered
    | ok text =>
      cases later : renderAll line es with
      | error error => simp [renderAll, first, later, bind, Except.bind] at rendered
      | ok others =>
        rw [renderAll, first, later] at rendered
        cases rendered
        exact congrArg Nat.succ (ih later)

theorem four_of_method_setColor {name : String} {method : CursorMethod}
    (known : cursorMethod? name = some method) (colors : method.action = .setColor) :
    method.arity = 4 := by
  have each : ∀ m ∈ cursorMethods, m.action = .setColor → m.arity = 4 := by decide
  exact each method (List.mem_of_find?_eq_some known) colors

theorem Called.arity {pen : Pen} {s : Statement} {passed : List String} {text : String}
    (called : Called pen s passed text) (clean : Lexical.Clean s) :
    s.arity? = some passed.length ∧ s.arguments.length = passed.length := by
  have method {cursor name : String} {arguments : List Expr} {line : Nat} {method : CursorMethod}
      (known : cursorMethod? name = some method)
      (clean : Lexical.Clean (.method cursor name arguments line)) :
      arguments.length = method.arity := by
    obtain ⟨found, known', fitting⟩ := clean.method
    cases known.symm.trans known'
    exact fitting.1
  cases called with
  | shape known _ rendered =>
    have same := length_of_renderAll rendered
    simp [Statement.arity?, Statement.arguments, known, same, (clean.call known).1]
  | draw known _ rendered | change known _ rendered =>
    have same := length_of_renderAll rendered
    simp [Statement.arity?, Statement.arguments, known, same, method known clean]
  | recolor known colors folded =>
    have four := four_of_method_setColor known colors
    simp [Statement.arity?, Statement.arguments, known, folded, four, method known clean]
  | construct rendered =>
    have same := length_of_renderAll rendered
    simp [Statement.arity?, Statement.arguments, same, clean.cursor]

/-- The lines hold the call that this statement becomes, with as many texts from the script's
arguments as the catalogue asks for. -/
def Carries (s : Statement) (passage : Passage) : Prop :=
  passage.source = s ∧ ∃ pen passed, ∃ text ∈ passage.texts,
    Called pen s passed text ∧ s.arity? = some passed.length ∧ s.arguments.length = passed.length

theorem Lowers.carries {depth : Nat} {before ss : List Statement} {passages : List Passage}
    (lowers : Lowers depth before ss passages)
    (clean : ∀ s ∈ Statement.walkAll ss, Lexical.Clean s) :
    List.Forall₂ Carries ((Statement.walkAll ss).filter Statement.isCallSite)
      (passages.filter (·.source.isCallSite)) := by
  rw [← filter_visits_snd Statement.isCallSite before, List.forall₂_map_left_iff]
  -- Every site that is met is clean, and its own lines have a call in them.
  have sites : ∀ visit ∈ (visits before (Statement.walkAll ss)).filter (·.2.isCallSite),
      Lexical.Clean visit.2 ∧ visit.2.isCallSite := by
    intro visit member
    obtain ⟨met, site⟩ := List.mem_filter.mp member
    refine ⟨clean _ ?_, site⟩
    rw [← visits_snd before (Statement.walkAll ss)]
    exact List.mem_map_of_mem met
  have visited := lowers.visited fun s (site : s.isCallSite) => site
  apply ((List.forall₂_and_left _ _).mpr ⟨sites, visited⟩).imp
  rintro visit passage ⟨⟨clean, site⟩, source, own⟩
  obtain ⟨passed, text, called, member⟩ := own.called_of_isCallSite site
  exact ⟨source, _, passed, text, member, called, called.arity clean⟩

theorem sites_of_isVar {s : Statement} (declared : s.isVar) :
    s.walk.filter Statement.isCallSite = [] := by
  cases s with
  | var => rfl
  | _ => cases declared

theorem sites_filter_isVar (p : Program) :
    (Statement.walkAll (p.filter Statement.isVar)).filter Statement.isCallSite = [] := by
  refine List.filter_eq_nil_iff.mpr fun x member => ?_
  obtain ⟨s, isIn, inside⟩ := Statement.mem_walkAll.mp member
  have none := sites_of_isVar (List.mem_filter.mp isIn).2
  exact List.filter_eq_nil_iff.mp none x inside

theorem sites_filter_not_isVar (p : Program) :
    (Statement.walkAll (p.filter (not ∘ Statement.isVar))).filter Statement.isCallSite =
      p.walk.filter Statement.isCallSite := by
  have cons (s : Statement) (ss : List Statement) :
      (Statement.walkAll (s :: ss)).filter Statement.isCallSite =
        s.walk.filter Statement.isCallSite ++ (Statement.walkAll ss).filter Statement.isCallSite :=
    List.filter_append ..
  rw [Program.walk]
  induction p with
  | nil => rfl
  | cons s ss ih =>
    by_cases declared : s.isVar
    next =>
      rw [List.filter_cons_of_neg (by simpa using declared), cons, sites_of_isVar declared, ih,
        List.nil_append]
    next => rw [List.filter_cons_of_pos (by simpa using declared), cons, cons, ih]

theorem generate_settled {p : Program} (clean : ∀ s ∈ p.walk, Lexical.Clean s)
    (surface : Surface) :
    match p.generate surface with
    | .ok _ => Lowerable p.walk
    | .error error => ¬ Lowerable p.walk ∧ Foreseen error := by
  have settled := sections_settles clean {}
  rw [Program.generate, Generator.run]
  cases ran : (sections p).run {} with
  | error error sheet =>
    rw [ran] at settled
    exact settled
  | ok texts sheet =>
    rw [ran] at settled
    exact settled

theorem generate_of_accepted (p : Program) (surface : Surface) (accepted : p.check = []) :
    (∀ error, p.generate surface = .error error →
      (∀ name, error.cause ≠ .notConstant name) ∧
        error.cause ≠ .unsupported "unknown cursor method") ∧
    ((∃ code, p.generate surface = .ok code) ↔ Lowerable p.walk) ∧
    ∀ code, p.generate surface = .ok code → ∃ declared operated,
      code.declarations = written declared ∧ code.operations = written operated ∧
        Lowers 1 [] (p.filter Statement.isVar) declared ∧
        Lowers 1 [] (p.filter (not ∘ Statement.isVar)) operated ∧
        declared.filter (·.source.isCallSite) = [] ∧
        List.Forall₂ Carries (p.walk.filter Statement.isCallSite)
          (operated.filter (·.source.isCallSite)) := by
  have clean := Lexical.clean_of_check accepted
  have settled := generate_settled clean surface
  refine ⟨?_, ?_, fun code generated => ?_⟩
  next =>
    intro error failed
    rw [failed] at settled
    exact settled.2
  next =>
    cases generated : p.generate surface with
    | error error =>
      rw [generated] at settled
      simpa using settled.1
    | ok code =>
      rw [generated] at settled
      simpa using settled
  next =>
    obtain ⟨declared, operated, shown, shown', lowers, lowers'⟩ := p.generate_lowers generated
    obtain ⟨first, second⟩ := forall_walk_partition.mp clean
    have declaring := lowers.carries first
    have operating := lowers'.carries second
    rw [sites_filter_isVar, List.forall₂_nil_left_iff] at declaring
    rw [sites_filter_not_isVar] at operating
    exact ⟨declared, operated, shown, shown', lowers, lowers', declaring, operating⟩

-- A cursor, and a loop that draws with the pen and with the cursor.
def cursorLoop : Program :=
  [.cursor "c" [.number (.int 1), .number (.int 2)] 1,
    .whileLoop (.boolean true) ⟨[.expression (.call "setThickness" [.number (.int 3)]) 3,
      .expression (.call "drawPoint" [.identifier "CANVAS_WIDTH", .number (.int 4)]) 4,
      .method "c" "drawCircle" [.number (.int 5)] 5,
      .method "c" "move" [.number (.int 6), .number (.int 7)] 6], 2⟩ 2,
    .var "n" none (.number (.int 8)) 7]

theorem generate_of_accepted_loop :
    cursorLoop.check = [] ∧ Lowerable cursorLoop.walk ∧
    ∃ code operated, cursorLoop.generate {} = .ok code ∧
      code.declarations = "    int n = 8;\n" ∧
      code.operations =
        "    Cursor* c = Cursor_Constructor(1, 2);\n" ++
        "    while (true)\n    \x7b\n" ++
        "        sprintf(filename, \"Data/Outputs/drawing_%d.bmp\", drawing_index);\n" ++
        "        drawPoint(renderer, SCREEN_WIDTH, 4, 0, 0, 0, 255, filename);\n" ++
        "        fprintf(file, \"%d %d\\n\", (int)(SCREEN_WIDTH), (int)(4));\n" ++
        "        drawing_index++;\n" ++
        "        sprintf(filename, \"Data/Outputs/drawing_%d.bmp\", drawing_index);\n" ++
        "        Cursor_DrawCircle(c, renderer, 5, filename);\n" ++
        "        fprintf(file, \"%d %d\\n\", (int)(c->x), (int)(c->y));\n" ++
        "        drawing_index++;\n" ++
        "        Cursor_Move(c, 6, 7);\n" ++
        "    \x7d\n" ∧
      code.operations = written operated ∧
      Lowers 1 [] (cursorLoop.filter (not ∘ Statement.isVar)) operated ∧
      List.Forall₂ Carries (cursorLoop.walk.filter Statement.isCallSite)
        (operated.filter (·.source.isCallSite)) := by
  have accepted : cursorLoop.check = [] := by decide +kernel
  obtain ⟨-, succeeds, described⟩ := generate_of_accepted cursorLoop {} accepted
  obtain ⟨code, generated⟩ : ∃ code, cursorLoop.generate {} = .ok code := ⟨_, rfl⟩
  obtain ⟨declared, operated, -, shown, -, lowers, -, carried⟩ := described code generated
  refine ⟨accepted, succeeds.mp ⟨code, generated⟩, code, operated, generated, ?_, ?_, shown,
    lowers, carried⟩
  next =>
    cases generated
    decide +kernel
  next =>
    cases generated
    decide +kernel

end DrawScript.Code
