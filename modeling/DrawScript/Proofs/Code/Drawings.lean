import DrawScript.Proofs.Code.Lowering

set_option autoImplicit false

namespace DrawScript

open Catalogue Code

theorem Statement.isCallSite_of_isDrawing {s : Statement} (draws : s.isDrawing) :
    s.isCallSite := by
  cases s with
  | expression value line =>
    cases value with
    | call callee arguments => exact draws
    | _ => cases draws
  | method => rfl
  | _ => cases draws

namespace Code

theorem Own.drawn_of_isDrawing {pen : Pen} {s : Statement} {texts : List String}
    (own : Own pen s texts) (draws : s.isDrawing) : Drawn pen s texts := by
  have site := Statement.isCallSite_of_isDrawing draws
  cases own with
  | clause clause => simp [clause.noSite.1] at site
  | called quiet _ => exact absurd draws quiet
  | drawn _ drawn => exact drawn
  | setter setter => exact absurd site (noSite_of_setter setter _ _)
  | empty => cases draws

theorem Lowers.drawn {depth : Nat} {before ss : List Statement} {passages : List Passage}
    (lowers : Lowers depth before ss passages) :
    List.Forall₂ (fun visit passage => passage.source = visit.2 ∧
        Drawn visit.1 visit.2 passage.texts)
      ((visits before (Statement.walkAll ss)).filter (·.2.isDrawing))
      (passages.filter (·.source.isDrawing)) := by
  have visited := lowers.visited fun s => s.isCallSite_of_isDrawing
  have draws : ∀ visit ∈ (visits before (Statement.walkAll ss)).filter (·.2.isDrawing),
      visit.2.isDrawing := fun visit member => (List.mem_filter.mp member).2
  apply ((List.forall₂_and_left _ _).mpr ⟨draws, visited⟩).imp
  rintro visit passage ⟨draws, source, own⟩
  exact ⟨source, own.drawn_of_isDrawing draws⟩

theorem setter_silent {name : String} {arguments : List Expr} {line : Nat} {sheet after : Sheet}
    (setter : name ∈ ["setRGBA", "setThickness"])
    (run : (statement (.expression (.call name arguments) line)).run sheet = .ok () after) :
    after.output = sheet.output := by
  rw [statement] at run
  obtain ⟨texts, own, rfl⟩ := expressionStatement_follows _ line sheet after run
  simp [own.nil_of_setter setter]

end Code

/-- What a program draws in the order of the text, each drawing with the pen it finds. Variables of
the outermost level are left out: they are declared before everything else. -/
def Program.drawings (p : Program) : List (Pen × Statement) :=
  (visits [] (Statement.walkAll (p.filter (not ∘ Statement.isVar)))).filter (·.2.isDrawing)

theorem Generator.surface_foldl (g : Generator) (earlier : List Program) :
    (earlier.foldl (fun h q => (h.run q).2) g).surface = g.surface := by
  induction earlier generalizing g with
  | nil => rfl
  | cons q earlier ih =>
    have kept : (g.run q).2.surface = g.surface := by
      simp only [Generator.run]
      split <;> rfl
    rw [List.foldl_cons, ih, kept]

theorem Generator.run_eq_generate (g : Generator) (p : Program) :
    (g.run p).1 = p.generate g.surface := by
  rw [Program.generate, run, run, sections_run p g.sheet]

theorem Program.generate_drawings (p : Program) (g : Generator) (earlier : List Program) :
    ((earlier.foldl (fun h q => (h.run q).2) g).run p).1 = p.generate g.surface ∧
    (∀ code, p.generate g.surface = .ok code → ∃ passages,
      code.operations = written passages ∧
        Lowers 1 [] (p.filter (not ∘ Statement.isVar)) passages ∧
        List.Forall₂ (fun visit passage => passage.source = visit.2 ∧
            Drawn visit.1 visit.2 passage.texts)
          p.drawings (passages.filter (·.source.isDrawing))) ∧
    (∀ visit ∈ p.drawings, ∀ value ∈ visit.1.color.channels, 0 ≤ value ∧ value ≤ 255) ∧
    (∀ sheet name arguments line after, name ∈ ["setRGBA", "setThickness"] →
      (statement (.expression (.call name arguments) line)).run sheet = .ok () after →
        after.output = sheet.output) ∧
    ∀ sheet cursor name arguments line after,
      (statement (.method cursor name arguments line)).run sheet = .ok () after →
        after.pen = sheet.pen := by
  refine ⟨?_, ?_, ?_, fun _ _ _ _ _ => setter_silent, ?_⟩
  next =>
    rw [Generator.run_eq_generate, Generator.surface_foldl]
  next =>
    intro code generated
    obtain ⟨-, passages, -, shown, -, lowers⟩ := generate_lowers generated
    exact ⟨passages, shown, lowers, lowers.drawn⟩
  next =>
    intro visit member
    obtain ⟨before, same⟩ := pen_of_mem_visits (List.mem_of_mem_filter member)
    rw [same]
    exact Pen.after_range before
  next =>
    intro sheet cursor name arguments line after run
    rw [statement] at run
    obtain ⟨texts, -, rfl⟩ := methodStatement_follows cursor name arguments line sheet after run
    rfl

-- Fails in the middle of a loop, with the pen changed.
def brokenLoop : Program :=
  [.expression (.call "setRGBA" [.number (.int 1), .number (.int 2), .number (.int 3)]) 1,
    .expression (.call "setThickness" [.number (.int 4)]) 2,
    .whileLoop (.boolean true) ⟨[.returnValue none 4], 3⟩ 3]

-- Setters inside a loop count for what is drawn behind it, a cursor's own setters do not.
def penLoop : Program :=
  [.expression (.call "setThickness" [.number (.int 7)]) 1,
    .whileLoop (.boolean true) ⟨[
      .expression (.call "setRGBA"
        [.number (.int 300), .unary .minus (.number (.int 8)), .number (.int 9)]) 2,
      .expression (.call "drawSegment"
        [.number (.int 1), .number (.int 2), .number (.int 3), .number (.int 4)]) 3,
      .expression (.call "setThickness" []) 4,
      .method "c" "setRGBA" [.number (.int 1), .number (.int 1)] 5], 1⟩ 1,
    .expression (.call "drawPoint" [.number (.int 5), .number (.int 6)]) 6]

theorem Program.generate_drawings_loop :
    (Generator.run ⟨{}, {}⟩ brokenLoop).2.sheet =
      { pen := ⟨⟨1, 2, 3, 0⟩, 4⟩, indent := 2, output := "    while (true)\n    \x7b\n" } ∧
    penLoop.drawings.map Prod.fst = [⟨⟨45, 8, 9, 0⟩, 7⟩, ⟨⟨45, 8, 9, 0⟩, 7⟩] ∧
    ∃ code passages, ((Generator.run ⟨{}, {}⟩ brokenLoop).2.run penLoop).1 = .ok code ∧
      code.operations =
        "    while (true)\n    \x7b\n" ++
        "        sprintf(filename, \"Data/Outputs/drawing_%d.bmp\", drawing_index);\n" ++
        "        drawSegment(renderer, 1, 2, 3, 4, 7, 45, 8, 9, 0, filename);\n" ++
        "        fprintf(file, \"%d %d\\n\", (int)(1), (int)(2));\n" ++
        "        drawing_index++;\n" ++
        "        Cursor_SetColor(c, 1, 1, 0, 0);\n" ++
        "    \x7d\n" ++
        "    sprintf(filename, \"Data/Outputs/drawing_%d.bmp\", drawing_index);\n" ++
        "    drawPoint(renderer, 5, 6, 45, 8, 9, 0, filename);\n" ++
        "    fprintf(file, \"%d %d\\n\", (int)(5), (int)(6));\n" ++
        "    drawing_index++;\n" ∧
      code.operations = written passages ∧
      Lowers 1 [] penLoop passages ∧
      List.Forall₂ (fun visit passage => passage.source = visit.2 ∧
          Drawn visit.1 visit.2 passage.texts)
        penLoop.drawings (passages.filter (·.source.isDrawing)) := by
  obtain ⟨code, generated⟩ : ∃ code, penLoop.generate {} = .ok code := ⟨_, rfl⟩
  obtain ⟨again, described, -⟩ := Program.generate_drawings penLoop ⟨{}, {}⟩ [brokenLoop]
  obtain ⟨passages, shown, lowers, drawn⟩ := described code generated
  refine ⟨by decide +kernel, by decide +kernel, code, passages, again.trans generated, ?_, shown,
    lowers, drawn⟩
  cases generated
  decide +kernel

end DrawScript
