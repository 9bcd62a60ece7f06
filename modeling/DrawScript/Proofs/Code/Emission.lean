import DrawScript.Proofs.Code.Passages

set_option autoImplicit false

namespace DrawScript

namespace Code

open Catalogue

def indented (depth : Nat) (text : String) : String :=
  String.ofList (List.replicate (4 * depth) ' ') ++ text ++ "\n"

@[simp] theorem Passage.text_nil (s : Statement) (depth : Nat) : Passage.text ⟨s, depth, []⟩ = "" :=
  rfl

@[simp] theorem Passage.text_cons (s : Statement) (depth : Nat) (text : String)
    (texts : List String) :
    Passage.text ⟨s, depth, text :: texts⟩ =
      indented depth text ++ Passage.text ⟨s, depth, texts⟩ := by
  simp [Passage.text, indented]

theorem emitLine_run (text : String) (sheet : Sheet) :
    (emitLine text).run sheet =
      .ok () { sheet with output := sheet.output ++ indented sheet.indent text } := by
  simp [emitLine, indented, String.append_assoc]

def Sheet.behind (sheet : Sheet) (met : List Statement) (text : String) : Sheet :=
  { sheet with pen := Pen.after met, output := sheet.output ++ text }

/-- From a sheet behind any statements, success adds text as described and leaves the pen behind
`ss` as well. The indentation is back where it was. -/
def Emits (writer : Writer Unit) (ss : List Statement)
    (described : (depth : Nat) → (before : List Statement) → String → Prop) : Prop :=
  ∀ before sheet after, sheet.pen = Pen.after before → writer.run sheet = .ok () after →
    ∃ text, described sheet.indent before text ∧ after = sheet.behind (before ++ ss) text

section

variable {writer next : Writer Unit} {ss others : List Statement}
  {described first second : (depth : Nat) → (before : List Statement) → String → Prop}

theorem Emits.mono (emits : Emits writer ss first)
    (weaker : ∀ depth before text, first depth before text → second depth before text) :
    Emits writer ss second := by
  intro before sheet after fresh run
  obtain ⟨text, shown, rfl⟩ := emits before sheet after fresh run
  exact ⟨text, weaker _ _ text shown, rfl⟩

theorem Emits.bind (emits : Emits writer ss first) (later : Emits next others second) :
    Emits (do writer; next) (ss ++ others) fun depth before shown =>
      ∃ text more, first depth before text ∧ second depth (before ++ ss) more ∧
        shown = text ++ more := by
  intro before sheet after fresh run
  rw [EStateM.run_bind] at run
  cases ran : writer.run sheet with
  | error error mid => simp [ran] at run
  | ok value mid =>
    obtain ⟨text, shown, rfl⟩ := emits before sheet mid fresh ran
    rw [ran] at run
    obtain ⟨more, shown', rfl⟩ := later (before ++ ss) _ after rfl run
    refine ⟨text ++ more, ⟨text, more, shown, shown', rfl⟩, ?_⟩
    simp [Sheet.behind, String.append_assoc]

theorem Emits.nothing (shown : ∀ depth before, described depth before "") :
    Emits (pure ()) [] described := by
  rintro before sheet _ fresh ⟨⟩
  exact ⟨"", shown _ _, by simp [Sheet.behind, ← fresh]⟩

theorem Emits.throw {error : CodeError} : Emits (throw error) ss described :=
  fun _ _ _ _ impossible => nomatch impossible

theorem Emits.given {α : Type} {result : Except CodeError α} {next : α → Writer Unit}
    (rest : ∀ value, result = .ok value → Emits (next value) ss described) :
    Emits (ofExcept result >>= next) ss described := by
  cases result with
  | error error => exact Emits.throw
  | ok value => exact rest value rfl

theorem Emits.line (text : String) :
    Emits (emitLine text) [] fun depth _ shown => shown = indented depth text := by
  rintro before sheet _ fresh ⟨⟩
  refine ⟨_, rfl, ?_⟩
  simp [Sheet.behind, indented, ← fresh, String.append_assoc]

theorem Emits.after_line (rest : Emits next ss first) (text : String) :
    Emits (do emitLine text; next) ss fun depth before shown =>
      ∃ more, first depth before more ∧ shown = indented depth text ++ more := by
  apply ((Emits.line text).bind rest).mono
  rintro depth before _ ⟨_, more, rfl, shown, rfl⟩
  rw [List.append_nil] at shown
  exact ⟨more, shown, rfl⟩

end

theorem action_of_name {callee : String} {function : DrawFunction}
    (known : drawFunction? callee = some function) :
    function.action =
      if callee = "setRGBA" then .setColor
      else if callee = "setThickness" then .setThickness
      else .shape callee (callee = "drawSegment") := by
  have each : ∀ f ∈ drawFunctions, f.action =
      if f.name = "setRGBA" then .setColor
      else if f.name = "setThickness" then .setThickness
      else .shape f.name (f.name = "drawSegment") := by decide
  have same : function.name = callee := by simpa using List.find?_some known
  rw [← same]
  exact each function (List.mem_of_find?_eq_some known)

/-- A writer for one statement without blocks: the lines it adds, and what it does to the pen. -/
def Follows (s : Statement) (writer : Writer Unit) : Prop :=
  ∀ sheet after, writer.run sheet = .ok () after →
    ∃ texts, Own sheet.pen s texts ∧ after =
      { sheet with
        pen := sheet.pen.step s
        output := sheet.output ++ Passage.text ⟨s, sheet.indent, texts⟩ }

theorem Follows.given {α : Type} {s : Statement} {result : Except CodeError α}
    {next : α → Writer Unit} (rest : ∀ value, result = .ok value → Follows s (next value)) :
    Follows s (ofExcept result >>= next) := by
  cases result with
  | error error => exact fun _ _ impossible => nomatch impossible
  | ok value => exact rest value rfl

-- Neither draws nor sets anything itself.
structure Idle (s : Statement) : Prop where
  color : s.setsColor? = none
  thickness : s.setsThickness? = none
  draws : s.isDrawing = false

theorem Idle.step {s : Statement} (idle : Idle s) (pen : Pen) : pen.step s = pen := by
  rw [Pen.step, idle.color, idle.thickness]
  rfl

theorem Follows.line {s : Statement} {text : String} (own : ∀ pen, Own pen s [text])
    (keeps : ∀ pen : Pen, pen.step s = pen) : Follows s (emitLine text) := by
  rintro sheet _ ⟨⟩
  refine ⟨[text], own _, ?_⟩
  simp [keeps, indented, String.append_assoc]

theorem Follows.drawing {s : Statement} {pen : Pen} {passed : List String} {text x y : String}
    (draws : s.isDrawing) (called : Called pen s passed text) (place : anchor s passed = (x, y))
    (keeps : pen.step s = pen) {sheet after : Sheet} (fresh : sheet.pen = pen)
    (run : (emitDrawing text x y).run sheet = .ok () after) :
    ∃ texts, Own sheet.pen s texts ∧ after =
      { sheet with
        pen := sheet.pen.step s
        output := sheet.output ++ Passage.text ⟨s, sheet.indent, texts⟩ } := by
  subst fresh
  cases run
  refine ⟨_, .drawn draws (.lines called place), ?_⟩
  simp [keeps, indented, String.append_assoc]

section

variable {callee : String} {function : DrawFunction} {arguments : List Expr} {line : Nat}

theorem setColor_follows (known : drawFunction? "setRGBA" = some function) :
    Follows (.expression (.call "setRGBA" arguments) line)
      (drawStatement function arguments line) := by
  have action : function.action = .setColor := action_of_name known
  simp only [drawStatement, action]
  apply Follows.given
  rintro color found sheet _ ⟨⟩
  refine ⟨[], .setter (by decide), ?_⟩
  rw [colorOf_eq found]
  simp [Pen.step, Statement.setsColor?, Statement.setsThickness?]

theorem setThickness_follows (known : drawFunction? "setThickness" = some function) :
    Follows (.expression (.call "setThickness" arguments) line)
      (drawStatement function arguments line) := by
  have action : function.action = .setThickness := action_of_name known
  simp only [drawStatement, action]
  cases arguments with
  | nil =>
    rintro sheet _ ⟨⟩
    exact ⟨[], .setter (by decide), by simp [Pen.step, Statement.setsColor?,
      Statement.setsThickness?]⟩
  | cons first others =>
    apply Follows.given
    rintro thickness found sheet _ ⟨⟩
    have known : first.constant? = some thickness := by
      cases value : first.constant? with
      | none => simp [constant, value] at found
      | some known => simpa [constant, value] using found
    refine ⟨[], .setter (by decide), ?_⟩
    simp [Pen.step, Statement.setsColor?, Statement.setsThickness?, known]

theorem shape_follows (known : drawFunction? callee = some function)
    (plain : callee ≠ "setRGBA" ∧ callee ≠ "setThickness") :
    Follows (.expression (.call callee arguments) line)
      (drawStatement function arguments line) := by
  have action : function.action = .shape callee (callee = "drawSegment") := by
    rw [action_of_name known, if_neg plain.1, if_neg plain.2]
  have shape : ¬ function.action.needsConstants := by simp [action, DrawAction.needsConstants]
  have draws : Statement.isDrawing (.expression (.call callee arguments) line) := by
    simp [Statement.isDrawing, known, shape]
  simp only [drawStatement, action]
  apply Follows.given
  intro texts rendered sheet after run
  apply Follows.drawing draws (Called.shape known shape rendered) rfl _ rfl
  next =>
    have same : shapeCall sheet.pen callee (callee = "drawSegment") texts =
        callee ++ "(" ++ ", ".intercalate ("renderer" :: texts ++
          (if callee = "drawSegment" then [toString sheet.pen.thickness] else []) ++
          [toString sheet.pen.color.red, toString sheet.pen.color.green,
            toString sheet.pen.color.blue, toString sheet.pen.color.alpha, "filename"]) ++
          ");" := by
      simp [shapeCall, call, commaSeparated, Color.channels]
    rw [← same]
    exact run
  next => simp [Pen.step, Statement.setsColor?, Statement.setsThickness?, plain]

theorem drawStatement_follows (known : drawFunction? callee = some function) :
    Follows (.expression (.call callee arguments) line)
      (drawStatement function arguments line) := by
  by_cases colors : callee = "setRGBA"
  next =>
    subst colors
    exact setColor_follows known
  next =>
    by_cases thickens : callee = "setThickness"
    next =>
      subst thickens
      exact setThickness_follows known
    next => exact shape_follows known ⟨colors, thickens⟩

end

theorem methodStatement_follows (cursor name : String) (arguments : List Expr) (line : Nat) :
    Follows (.method cursor name arguments line) (methodStatement cursor name arguments line) := by
  have keeps (pen : Pen) : pen.step (.method cursor name arguments line) = pen := rfl
  cases known : cursorMethod? name with
  | none =>
    simp only [methodStatement, known]
    exact fun _ _ impossible => nomatch impossible
  | some method =>
    have quiet (other : method.action ≠ .draw) :
        ¬ Statement.isDrawing (.method cursor name arguments line) := by
      simp [Statement.isDrawing, known, other]
    cases action : method.action with
    | draw =>
      have draws : Statement.isDrawing (.method cursor name arguments line) := by
        simp [Statement.isDrawing, known, action]
      simp only [methodStatement, known, action]
      apply Follows.given
      intro texts rendered sheet after run
      exact Follows.drawing draws (.draw known action rendered) rfl (keeps _) rfl run
    | setColor =>
      simp only [methodStatement, known, action]
      apply Follows.given
      intro color found
      rw [colorOf_eq found]
      refine .line (fun pen => ?_) keeps
      exact .called (quiet (by simp [action])) (.recolor known action rfl)
    | move | rotate | setThickness =>
      simp only [methodStatement, known, action]
      apply Follows.given
      intro texts rendered
      refine .line (fun pen => ?_) keeps
      exact .called (quiet (by simp [action])) (.change known (by simp [action]) rendered)

theorem idle_of_plain {value : Expr} (line : Nat) (plain : ¬ value.IsDrawing) :
    Idle (.expression value line) := by
  cases value with
  | call callee arguments =>
    have unknown : drawFunction? callee = none := by simpa [Expr.IsDrawing] using plain
    have noColor : callee ≠ "setRGBA" := by
      rintro rfl
      cases unknown
    have noThickness : callee ≠ "setThickness" := by
      rintro rfl
      cases unknown
    constructor
    next => simp [Statement.setsColor?, noColor]
    next => simp [Statement.setsThickness?, noThickness]
    next => simp [Statement.isDrawing, unknown]
  | _ => exact ⟨rfl, rfl, rfl⟩

theorem expressionStatement_plain {value : Expr} (line : Nat) (plain : ¬ value.IsDrawing) :
    expressionStatement value line =
      (do emitLine ((← ofExcept (renderBare line value)) ++ ";")) := by
  cases value with
  | call callee arguments =>
    have unknown : drawFunction? callee = none := by simpa [Expr.IsDrawing] using plain
    simp [expressionStatement, unknown]
  | _ => rfl

theorem expressionStatement_follows (value : Expr) (line : Nat) :
    Follows (.expression value line) (expressionStatement value line) := by
  by_cases drawing : value.IsDrawing
  next =>
    cases value with
    | call callee arguments =>
      obtain ⟨function, known⟩ := Option.isSome_iff_exists.mp drawing
      simp only [expressionStatement, known]
      exact drawStatement_follows known
    | _ => cases drawing
  next =>
    rw [expressionStatement_plain line drawing]
    apply Follows.given
    intro text rendered
    exact .line (fun pen => .clause (.value drawing rendered)) (idle_of_plain line drawing).step

theorem clause_of_declaration {name : String} {type : Option String} {initial : Expr} {line : Nat}
    {text : String} (found : declaration name type initial line = .ok text) :
    Clause (.var name type initial line) text := by
  cases rendered : renderBare line initial with
  | error error => simp [declaration, rendered, bind, Except.bind] at found
  | ok value =>
    rw [declaration, rendered] at found
    cases found
    exact .declared rendered

theorem starts_of_forInitial {initial : Option Statement} {text : String}
    (found : forInitial initial = .ok text) : Starts initial text := by
  cases initial with
  | none =>
    cases found
    rfl
  | some s =>
    cases s with
    | var name type initial line => exact clause_of_declaration found
    | expression value line =>
      exact .value (drawsNothing_of_renderBare found value List.mem_cons_self) found
    | _ => cases found

theorem forHead_ok {initial : Option Statement} {condition increment : Option Expr} {line : Nat}
    {head : String} (found : forHead initial condition increment line = .ok head) :
    ∃ first test step, Starts initial first ∧ renderOptional line condition = .ok test ∧
      renderOptional line increment = .ok step ∧
      head = "for (" ++ first ++ "; " ++ test ++ "; " ++ step ++ ")" := by
  cases first : forInitial initial with
  | error error => simp [forHead, first, bind, Except.bind] at found
  | ok start =>
    cases second : renderOptional line condition with
    | error error => simp [forHead, first, second, bind, Except.bind] at found
    | ok test =>
      cases third : renderOptional line increment with
      | error error => simp [forHead, first, second, third, bind, Except.bind] at found
      | ok step =>
        rw [forHead, first, second, third] at found
        cases found
        exact ⟨start, test, step, starts_of_forInitial first, rfl, rfl, rfl⟩

theorem Clause.idle {s : Statement} {text : String} (clause : Clause s text) : Idle s := by
  cases clause with
  | declared => exact ⟨rfl, rfl, rfl⟩
  | value plain => exact idle_of_plain _ plain

theorem Starts.idle {initial : Option Statement} {text : String} (starts : Starts initial text) :
    ∀ s ∈ Statement.walkInitial initial, Idle s := by
  cases initial with
  | none => exact List.forall_mem_nil _
  | some s =>
    have simple : s.inner = [] := by cases starts <;> rfl
    rw [Statement.walkInitial, simple, List.forall_mem_singleton]
    exact Clause.idle starts

theorem Encloses.idle {s : Statement} {head body : List Statement} {opening closing : List String}
    (encloses : Encloses s head opening body closing) : ∀ x ∈ s :: head, Idle x := by
  cases encloses with
  | forLoop starts => exact List.forall_mem_cons.mpr ⟨⟨rfl, rfl, rfl⟩, starts.idle⟩
  | _ => exact List.forall_mem_singleton.mpr ⟨rfl, rfl, rfl⟩

theorem Pen.after_idle {ss : List Statement} (idle : ∀ s ∈ ss, Idle s) (before : List Statement) :
    Pen.after (before ++ ss) = Pen.after before := by
  induction ss generalizing before with
  | nil => rw [List.append_nil]
  | cons s ss ih =>
    obtain ⟨first, rest⟩ := List.forall_mem_cons.mp idle
    rw [← List.singleton_append, ← List.append_assoc, ih rest, Pen.after_concat, first.step]

theorem Emits.idle {writer : Writer Unit} {idles ss : List Statement}
    {described : (depth : Nat) → (before : List Statement) → String → Prop}
    (emits : Emits writer ss described) (idle : ∀ s ∈ idles, Idle s) :
    Emits writer (idles ++ ss) fun depth before => described depth (before ++ idles) := by
  intro before sheet after fresh run
  rw [← List.append_assoc]
  exact emits (before ++ idles) sheet after (by rw [Pen.after_idle idle, fresh]) run

-- What the passages of these statements are written as.
def Lowered (ss : List Statement) (depth : Nat) (before : List Statement) (text : String) : Prop :=
  ∃ passages, Lowers depth before ss passages ∧ text = written passages

def Braced (body : List Statement) (depth : Nat) (before : List Statement) (text : String) : Prop :=
  ∃ inner, Lowers (depth + 1) before body inner ∧
    text = indented depth "\x7b" ++ written inner ++ indented depth "\x7d"

theorem Follows.emits {s : Statement} {writer : Writer Unit} (follows : Follows s writer)
    (simple : s.inner = []) : Emits writer s.walk (Lowered [s]) := by
  intro before sheet after fresh run
  obtain ⟨texts, own, rfl⟩ := follows sheet after run
  have one : s.walk = [s] := by rw [Statement.walk, simple]
  rw [fresh] at own
  refine ⟨_, ⟨_, .own own .nil, rfl⟩, ?_⟩
  simp [Sheet.behind, one, Pen.after_concat, fresh]

theorem Emits.braces {body : List Statement} {start : Nat}
    (inside : Emits (statements body) (Statement.walkAll body) (Lowered body)) :
    Emits (block ⟨body, start⟩) (Statement.walkAll body) (Braced body) := by
  intro before sheet after fresh run
  rw [block] at run
  -- One level deeper, behind the opening brace.
  let deeper : Sheet :=
    { sheet with
      indent := sheet.indent + 1
      output := sheet.output ++ indented sheet.indent "\x7b" }
  have run : (do
      statements body
      modify fun sheet : Sheet => { sheet with indent := sheet.indent - 1 }
      emitLine "\x7d").run deeper = .ok () after := by
    simpa [deeper, emitLine_run] using run
  rw [EStateM.run_bind] at run
  cases ran : (statements body).run deeper with
  | error error mid => simp [ran] at run
  | ok value mid =>
    obtain ⟨_, ⟨inner, lowers, rfl⟩, rfl⟩ := inside before deeper mid fresh ran
    rw [ran] at run
    cases run
    refine ⟨_, ⟨inner, lowers, rfl⟩, ?_⟩
    simp [deeper, Sheet.behind, indented, String.append_assoc]

mutual
theorem statement_emits : ∀ s : Statement, Emits (statement s) s.walk (Lowered [s])
  | .var name type initial line => by
    refine Follows.emits ?_ rfl
    rw [statement]
    apply Follows.given
    intro text found
    exact .line (fun pen => .clause (clause_of_declaration found)) fun _ => rfl
  | .cursor name arguments line => by
    refine Follows.emits ?_ rfl
    rw [statement]
    apply Follows.given
    intro texts rendered
    refine .line (fun pen => ?_) fun _ => rfl
    have called := Own.called (by simp [Statement.isDrawing])
      (Called.construct rendered : Called pen (.cursor name arguments line) texts _)
    simpa [call, commaSeparated, String.append_assoc] using called
  | .ifElse condition ⟨body, start⟩ none line => by
    rw [statement]
    apply Emits.given
    intro test rendered
    have encloses : Encloses (.ifElse condition ⟨body, start⟩ none line) _ _ _ _ :=
      .ifThen rendered
    rw [encloses.walk, otherwise, bind_pure_unit]
    apply (((block_emits ⟨body, start⟩).idle encloses.idle).after_line _).mono
    rintro depth before _ ⟨_, ⟨inner, lowers, rfl⟩, rfl⟩
    exact ⟨_, .enclosed encloses lowers .nil, by simp [String.append_assoc]⟩
  | .ifElse condition ⟨thens, first⟩ (some ⟨elses, second⟩) line => by
    rw [statement]
    apply Emits.given
    intro test rendered
    have idle : ∀ x ∈ [Statement.ifElse condition ⟨thens, first⟩ (some ⟨elses, second⟩) line],
        Idle x := List.forall_mem_singleton.mpr ⟨rfl, rfl, rfl⟩
    have branches := ((block_emits ⟨thens, first⟩).idle idle).bind
      ((block_emits ⟨elses, second⟩).after_line "else")
    rw [otherwise]
    apply (branches.after_line _).mono
    rintro depth before _
      ⟨_, ⟨_, _, ⟨thenInner, inThen, rfl⟩, ⟨_, ⟨elseInner, inElse, rfl⟩, rfl⟩, rfl⟩, rfl⟩
    exact ⟨_, .branches rfl rendered inThen inElse .nil, by simp [String.append_assoc]⟩
  | .forLoop initial condition increment ⟨body, start⟩ line => by
    rw [statement]
    apply Emits.given
    intro head found
    obtain ⟨starting, test, step, starts, tests, steps, rfl⟩ := forHead_ok found
    have encloses : Encloses (.forLoop initial condition increment ⟨body, start⟩ line) _ _ _ _ :=
      .forLoop starts tests steps
    rw [encloses.walk]
    apply (((block_emits ⟨body, start⟩).idle encloses.idle).after_line _).mono
    rintro depth before _ ⟨_, ⟨inner, lowers, rfl⟩, rfl⟩
    exact ⟨_, .enclosed encloses lowers .nil, by simp [String.append_assoc]⟩
  | .whileLoop condition ⟨body, start⟩ line => by
    rw [statement]
    apply Emits.given
    intro test rendered
    have encloses : Encloses (.whileLoop condition ⟨body, start⟩ line) _ _ _ _ :=
      .whileLoop rendered
    rw [encloses.walk]
    apply (((block_emits ⟨body, start⟩).idle encloses.idle).after_line _).mono
    rintro depth before _ ⟨_, ⟨inner, lowers, rfl⟩, rfl⟩
    exact ⟨_, .enclosed encloses lowers .nil, by simp [String.append_assoc]⟩
  | .doWhile ⟨body, start⟩ condition line => by
    have idle : ∀ x ∈ [Statement.doWhile ⟨body, start⟩ condition line], Idle x :=
      List.forall_mem_singleton.mpr ⟨rfl, rfl, rfl⟩
    have last : Emits (do emitLine ("while (" ++ (← ofExcept (renderBare line condition)) ++ ");"))
        [] fun depth _ shown => ∃ test, renderBare line condition = .ok test ∧
          shown = indented depth ("while (" ++ test ++ ");") :=
      .given fun test rendered => (Emits.line _).mono fun _ _ _ same => ⟨test, rendered, same⟩
    rw [statement, Statement.walk, Statement.inner, ← List.append_nil (Statement.walkBlock _)]
    apply ((((block_emits ⟨body, start⟩).idle idle).bind last).after_line _).mono
    rintro depth before _
      ⟨_, ⟨_, _, ⟨inner, lowers, rfl⟩, ⟨test, rendered, rfl⟩, rfl⟩, rfl⟩
    exact ⟨_, .enclosed (.doWhile rendered) lowers .nil, by simp [String.append_assoc]⟩
  | .method cursor name arguments line => by
    rw [statement]
    exact (methodStatement_follows cursor name arguments line).emits rfl
  | .block ⟨body, start⟩ => by
    have encloses : Encloses (.block ⟨body, start⟩) _ _ _ _ := .block
    rw [statement, encloses.walk]
    apply ((block_emits ⟨body, start⟩).idle encloses.idle).mono
    rintro depth before _ ⟨inner, lowers, rfl⟩
    exact ⟨_, .enclosed encloses lowers .nil, by simp [String.append_assoc]⟩
  | .expression value line => by
    rw [statement]
    exact (expressionStatement_follows value line).emits rfl
  | .empty line => by
    refine Follows.emits ?_ rfl
    rintro sheet _ ⟨⟩
    exact ⟨[], .empty, by simp [Pen.step, Statement.setsColor?, Statement.setsThickness?]⟩
  | .function name parameters body line => Emits.throw
  | .returnValue value line => Emits.throw
  | .copy source destination line => Emits.throw
  | .animate first second body line => Emits.throw

theorem block_emits :
    ∀ b : Block Statement, Emits (block b) (Statement.walkAll b.statements) (Braced b.statements)
  | ⟨body, _⟩ => (statements_emits body).braces

theorem statements_emits :
    ∀ ss, Emits (statements ss) (Statement.walkAll ss) (Lowered ss)
  | [] => Emits.nothing fun _ _ => ⟨[], .nil, rfl⟩
  | s :: ss => by
    rw [statements]
    apply ((statement_emits s).bind (statements_emits ss)).mono
    rintro depth before _ ⟨_, _, ⟨passages, lowers, rfl⟩, ⟨more, lowers', rfl⟩, rfl⟩
    rw [← List.singleton_append, ← written_append]
    refine ⟨_, lowers.append ?_, rfl⟩
    simpa [Statement.walkAll, Statement.walk] using lowers'
end

theorem idle_of_isVar (p : Program) :
    ∀ s ∈ Statement.walkAll (p.filter Statement.isVar), Idle s := by
  intro s member
  obtain ⟨declared, isDeclared, inside⟩ := Statement.mem_walkAll.mp member
  obtain ⟨-, isVar⟩ := List.mem_filter.mp isDeclared
  cases declared with
  | var name type initial line =>
    rw [Statement.walk, Statement.inner, List.mem_singleton] at inside
    subst inside
    exact ⟨rfl, rfl, rfl⟩
  | _ => cases isVar

-- Nothing of a sheet survives the reset.
theorem sections_run (p : Program) (sheet : Sheet) :
    (sections p).run sheet = (sections p).run {} := rfl

theorem sections_lowers {p : Program} {texts : String × String} {after : Sheet}
    (run : (sections p).run {} = .ok texts after) :
    ∃ declared operated, texts = (written declared, written operated) ∧
      Lowers 1 [] (p.filter Statement.isVar) declared ∧
      Lowers 1 [] (p.filter (not ∘ Statement.isVar)) operated := by
  rw [sections, List.partition_eq_filter_filter] at run
  have run : (do
      statements (p.filter Statement.isVar)
      let declarations ← takeOutput
      statements (p.filter (not ∘ Statement.isVar))
      let operations ← takeOutput
      return (declarations, operations)).run {} = .ok texts after := run
  rw [EStateM.run_bind] at run
  cases first : (statements (p.filter Statement.isVar)).run {} with
  | error error mid => simp [first] at run
  | ok value mid =>
    obtain ⟨_, ⟨declared, lowers, rfl⟩, rfl⟩ := statements_emits _ [] {} mid rfl first
    -- Declarations leave the pen as it was, and the text is taken away behind them.
    have between : Sheet.behind {} ([] ++ Statement.walkAll (p.filter Statement.isVar))
        (written declared) = { output := written declared } := by
      simp only [Sheet.behind, Pen.after_idle (idle_of_isVar p), String.empty_append]
      rfl
    rw [first, between] at run
    have run : (do
        statements (p.filter (not ∘ Statement.isVar))
        let operations ← takeOutput
        return (written declared, operations)).run {} = .ok texts after := run
    rw [EStateM.run_bind] at run
    cases second : (statements (p.filter (not ∘ Statement.isVar))).run {} with
    | error error mid => simp [second] at run
    | ok value mid =>
      obtain ⟨_, ⟨operated, lowers', rfl⟩, rfl⟩ := statements_emits _ [] {} mid rfl second
      rw [second] at run
      cases run
      refine ⟨declared, operated, ?_, lowers, lowers'⟩
      simp [Sheet.behind]

end Code

theorem Program.generate_lowers {p : Program} {surface : Surface} {code : GeneratedCode}
    (generated : p.generate surface = .ok code) :
    ∃ declared operated, code.declarations = Code.written declared ∧
      code.operations = Code.written operated ∧
      Code.Lowers 1 [] (p.filter Statement.isVar) declared ∧
      Code.Lowers 1 [] (p.filter (not ∘ Statement.isVar)) operated := by
  rw [generate, Generator.run] at generated
  cases run : (Code.sections p).run {} with
  | error error sheet => simp [run] at generated
  | ok texts sheet =>
    obtain ⟨declared, operated, rfl, lowers, lowers'⟩ := Code.sections_lowers run
    rw [run] at generated
    cases generated
    exact ⟨declared, operated, rfl, rfl, lowers, lowers'⟩

end DrawScript
