import DrawScript.Proofs.Grammar.FirstToken
import DrawScript.Proofs.Grammar.Mending
import DrawScript.Proofs.Grammar.Soundness.Expression

set_option autoImplicit false

namespace DrawScript.Grammar

variable {gaps : Prop}

section

variable {phrase : Spelling Expr} {braces : Spelling (Block Statement)} {p : Parser Expr}
  {body : BlockParser}

theorem annotation_reads :
    Reads gaps (fun tokens type => ∀ e, TypeOf tokens e (type <|> literalType? e)) annotation := by
  refine (takes_reads _ _).bind fun _ taken => ?_
  cases taken with
  | true =>
    refine (expectName_reads _).bind fun _ _ => ?_
    apply Reads.pure
    rintro ⟨named⟩ ⟨_, colon, rfl, isColon, rfl⟩ e
    exact .written isColon named
  | false =>
    apply Reads.pure
    rintro rfl e
    cases e with
    | number n => cases n <;> constructor
    | boolean b => exact .bool
    | _ => exact .untyped (by simp) (by simp)

theorem expectInitial_reads (name : String) :
    Reads gaps (fun tokens _ => ∃ line, Terminal .assign "=" tokens line) (expectInitial name) := by
  refine (takes_reads _ _).bind fun _ taken => ?_
  cases taken with
  | true =>
    apply Reads.pure
    intro sign
    simpa [Skipped] using sign
  | false => exact Reads.currentLine fun _ => Reads.fail

theorem varDeclaration_reads (expression : Reads gaps phrase p) :
    Reads gaps (fun tokens found => VarDeclaration phrase tokens found.2) (varDeclaration p) := by
  refine (expect_reads _ _).bind fun _ _ => ?_
  refine (expectName_reads _).bind fun _ _ => ?_
  refine annotation_reads.bind fun _ _ => ?_
  refine (expectInitial_reads _).bind fun _ _ => ?_
  refine expression.bind fun _ initial => ?_
  apply Reads.pure
  rintro value ⟨_, sign, rfl, isSign, rfl⟩ typed ⟨named⟩ ⟨keyword, rfl, isVar, rfl⟩
  simpa using VarDeclaration.declare isVar named (typed initial) isSign value

theorem varStatement_reads (expression : Reads gaps phrase p) :
    Reads gaps (StatementForm phrase braces) (varStatement p) := by
  refine (varDeclaration_reads expression).bind fun _ _ => ?_
  refine (expectSemicolon_reads _).bind fun _ _ => ?_
  apply Reads.pure
  rintro ⟨_, stop, rfl, stops, rfl⟩ declared
  simpa using StatementForm.var declared stops

theorem cursorStatement_reads (expression : Reads gaps phrase p) :
    Reads gaps (StatementForm phrase braces) (cursorStatement p) := by
  refine (expect_reads _ _).bind fun _ _ => ?_
  refine (expectName_reads _).bind fun _ _ => ?_
  refine (expect_reads _ _).bind fun _ _ => ?_
  refine (expect_reads _ _).bind fun _ _ => ?_
  refine (parenthesized_reads expression).bind fun _ _ => ?_
  refine (expectSemicolon_reads _).bind fun _ _ => ?_
  apply Reads.pure
  rintro ⟨_, stop, rfl, stops, rfl⟩ items ⟨again, rfl, isAgain, rfl⟩ ⟨sign, rfl, isSign, rfl⟩
    ⟨named⟩ ⟨keyword, rfl, isCursor, rfl⟩
  simpa using StatementForm.cursor isCursor named isSign isAgain items stops

theorem condition_reads (expression : Reads gaps phrase p) :
    Reads gaps (Condition phrase) (condition p) := by
  refine (expect_reads _ _).bind fun _ _ => ?_
  refine expression.bind fun _ _ => ?_
  refine (expect_reads _ _).bind fun _ _ => ?_
  apply Reads.pure
  rintro ⟨closing, rfl, closes, rfl⟩ inner ⟨opening, rfl, opens, rfl⟩
  simpa using Condition.parenthesis opens inner closes

theorem ifStatement_reads (expression : Reads gaps phrase p)
    (block : ∀ owner, Reads gaps braces (body owner)) (bound : List Token) : Reads gaps (IfElse phrase braces) (ifStatement p body bound) := by
  induction bound with
  | nil => exact Reads.currentLine fun _ => Reads.fail
  | cons _ bound ih =>
    refine (expect_reads _ _).bind fun _ _ => ?_
    refine (condition_reads expression).bind fun _ _ => ?_
    refine (block _).bind fun _ _ => ?_
    refine Reads.currentLine fun _ => ?_
    refine (takes_reads _ _).bind fun _ taken => ?_
    cases taken with
    | false =>
      apply Reads.pure
      rintro rfl - first tested ⟨keyword, rfl, isIf, rfl⟩
      simpa using IfElse.plain isIf tested first
    | true =>
      refine (sees_reads _ _).bind fun _ seen => ?_
      cases seen with
      | true =>
        refine ih.bind fun _ _ => ?_
        apply Reads.pure
        rintro second rfl ⟨_, separator, rfl, isElse, rfl⟩ sameLine first tested
          ⟨keyword, rfl, isIf, rfl⟩
        rw [← sameLine separator _ rfl]
        simpa using IfElse.elseIf isIf tested first isElse second
      | false =>
        refine (block _).bind fun _ _ => ?_
        apply Reads.pure
        rintro second rfl ⟨_, separator, rfl, isElse, rfl⟩ - first tested
          ⟨keyword, rfl, isIf, rfl⟩
        simpa using IfElse.otherwise isIf tested first isElse second

theorem forInitial_reads (expression : Reads gaps phrase p)
    (begins : ∀ tokens e, phrase tokens e → Begins StartsOperand tokens) :
    Reads gaps (ForInitial phrase) (forInitial p) := by
  refine (sees_reads _ _).bind fun _ stopped => ?_
  cases stopped with
  | true =>
    apply Reads.pure
    rintro rfl
    exact .none
  | false =>
    refine (sees_reads _ _).bind fun _ declares => ?_
    cases declares with
    | true =>
      refine (varDeclaration_reads expression).bind fun _ _ => ?_
      apply Reads.pure
      rintro declared rfl rfl
      simpa using ForInitial.var declared
    | false =>
      refine Reads.currentLine fun _ => ?_
      refine expression.bind fun _ _ => ?_
      apply Reads.pure
      rintro plain sameLine rfl rfl
      obtain ⟨first, more, rfl, -⟩ := begins _ _ plain
      rw [← sameLine first _ rfl]
      simpa using ForInitial.expression plain

theorem optional_reads (expression : Reads gaps phrase p) (stop : String) :
    Reads gaps (Optional phrase) (optional p stop) := by
  refine (sees_reads _ _).bind fun _ stopped => ?_
  cases stopped with
  | true =>
    apply Reads.pure
    rintro rfl
    exact .none
  | false =>
    refine expression.bind fun _ _ => ?_
    apply Reads.pure
    rintro present rfl
    simpa using Optional.some present

theorem forStatement_reads (expression : Reads gaps phrase p)
    (begins : ∀ tokens e, phrase tokens e → Begins StartsOperand tokens)
    (block : ∀ owner, Reads gaps braces (body owner)) :
    Reads gaps (StatementForm phrase braces) (forStatement p body) := by
  refine (expect_reads _ _).bind fun _ _ => ?_
  refine (expect_reads _ _).bind fun _ _ => ?_
  refine (forInitial_reads expression begins).bind fun _ _ => ?_
  refine (expect_reads _ _).bind fun _ _ => ?_
  refine (optional_reads expression _).bind fun _ _ => ?_
  refine (expect_reads _ _).bind fun _ _ => ?_
  refine (optional_reads expression _).bind fun _ _ => ?_
  refine (expect_reads _ _).bind fun _ _ => ?_
  refine (block _).bind fun _ _ => ?_
  apply Reads.pure
  rintro repeated ⟨closing, rfl, closes, rfl⟩ stepped ⟨second, rfl, stopsAgain, rfl⟩ tested
    ⟨stop, rfl, stops, rfl⟩ starts ⟨opening, rfl, opens, rfl⟩ ⟨keyword, rfl, isFor, rfl⟩
  simpa using
    StatementForm.forLoop isFor opens starts stops tested stopsAgain stepped closes repeated

theorem whileStatement_reads (expression : Reads gaps phrase p)
    (block : ∀ owner, Reads gaps braces (body owner)) :
    Reads gaps (StatementForm phrase braces) (whileStatement p body) := by
  refine (expect_reads _ _).bind fun _ _ => ?_
  refine (condition_reads expression).bind fun _ _ => ?_
  refine (block _).bind fun _ _ => ?_
  apply Reads.pure
  rintro repeated tested ⟨keyword, rfl, isWhile, rfl⟩
  simpa using StatementForm.whileLoop isWhile tested repeated

theorem doStatement_reads (expression : Reads gaps phrase p)
    (block : ∀ owner, Reads gaps braces (body owner)) :
    Reads gaps (StatementForm phrase braces) (doStatement p body) := by
  refine (expect_reads _ _).bind fun _ _ => ?_
  refine (block _).bind fun _ _ => ?_
  refine (expect_reads _ _).bind fun _ _ => ?_
  refine (condition_reads expression).bind fun _ _ => ?_
  refine (expectSemicolon_reads _).bind fun _ _ => ?_
  apply Reads.pure
  rintro ⟨_, stop, rfl, stops, rfl⟩ tested ⟨separator, rfl, isWhile, rfl⟩ repeated
    ⟨keyword, rfl, isDo, rfl⟩
  simpa using StatementForm.doWhile isDo repeated isWhile tested stops

theorem functionStatement_reads (block : ∀ owner, Reads gaps braces (body owner)) :
    Reads gaps (StatementForm phrase braces) (functionStatement body) := by
  refine (expect_reads _ _).bind fun _ _ => ?_
  refine (expectName_reads _).bind fun _ _ => ?_
  refine (parenthesized_reads (expectName_reads _)).bind fun _ _ => ?_
  refine (block _).bind fun _ _ => ?_
  apply Reads.pure
  rintro run items ⟨named⟩ ⟨keyword, rfl, isFunction, rfl⟩
  simpa using StatementForm.function isFunction named items run

theorem returnStatement_reads (expression : Reads gaps phrase p) :
    Reads gaps (StatementForm phrase braces) (returnStatement p) := by
  refine (expect_reads _ _).bind fun _ _ => ?_
  refine (optional_reads expression _).bind fun _ _ => ?_
  refine (expectSemicolon_reads _).bind fun _ _ => ?_
  apply Reads.pure
  rintro ⟨_, stop, rfl, stops, rfl⟩ result ⟨keyword, rfl, isReturn, rfl⟩
  simpa using StatementForm.returnValue isReturn result stops

theorem copyArguments_reads (expression : Reads gaps phrase p) (line : Nat) (side : CopyEnd) :
    Reads gaps (fun tokens arguments =>
      Parenthesized phrase tokens arguments ∧ arguments.length = side.arity)
      (copyArguments p line side) := by
  refine (parenthesized_reads expression).bind fun _ arguments => ?_
  split
  next counted =>
    apply Reads.pure
    intro items
    exact ⟨by simpa using items, counted⟩
  next => exact Reads.fail

theorem copyStatement_reads (expression : Reads gaps phrase p) :
    Reads gaps (StatementForm phrase braces) (copyStatement p) := by
  refine (expect_reads _ _).bind fun _ _ => ?_
  refine (copyArguments_reads expression _ _).bind fun _ _ => ?_
  refine (expect_reads _ _).bind fun _ _ => ?_
  refine (copyArguments_reads expression _ _).bind fun _ _ => ?_
  refine (expectSemicolon_reads _).bind fun _ _ => ?_
  apply Reads.pure
  rintro ⟨_, stop, rfl, stops, rfl⟩ ⟨put, two⟩ ⟨separator, rfl, isTo, rfl⟩ ⟨taken, four⟩
    ⟨keyword, rfl, isCopy, rfl⟩
  simpa using StatementForm.copy isCopy taken four isTo put two stops

theorem animateStatement_reads (expression : Reads gaps phrase p)
    (block : ∀ owner, Reads gaps braces (body owner)) :
    Reads gaps (StatementForm phrase braces) (animateStatement p body) := by
  refine (expect_reads _ _).bind fun _ _ => ?_
  refine (expect_reads _ _).bind fun _ _ => ?_
  refine expression.bind fun _ _ => ?_
  refine (expect_reads _ _).bind fun _ _ => ?_
  refine expression.bind fun _ _ => ?_
  refine (expect_reads _ _).bind fun _ _ => ?_
  refine (block _).bind fun _ _ => ?_
  apply Reads.pure
  rintro repeated ⟨closing, rfl, closes, rfl⟩ right ⟨comma, rfl, isComma, rfl⟩ left
    ⟨opening, rfl, opens, rfl⟩ ⟨keyword, rfl, isAnimate, rfl⟩
  simpa using StatementForm.animate isAnimate opens left isComma right closes repeated

theorem methodStatement_reads (expression : Reads gaps phrase p) :
    Reads gaps (StatementForm phrase braces) (methodStatement p) := by
  refine Reads.currentLine fun _ => ?_
  refine (expectName_reads _).bind fun _ _ => ?_
  refine (expect_reads _ _).bind fun _ _ => ?_
  refine (expectName_reads _).bind fun _ _ => ?_
  refine (parenthesized_reads expression).bind fun _ _ => ?_
  refine (expectSemicolon_reads _).bind fun _ _ => ?_
  apply Reads.pure
  rintro ⟨_, stop, rfl, stops, rfl⟩ items ⟨named⟩ ⟨point, rfl, isPoint, rfl⟩ ⟨isCursor⟩ sameLine
  rw [← sameLine _ _ rfl]
  simpa using StatementForm.method isCursor isPoint named items stops

theorem expressionStatement_reads (expression : Reads gaps phrase p)
    (begins : ∀ tokens e, phrase tokens e → Begins StartsOperand tokens) :
    Reads gaps (StatementForm phrase braces) (expressionStatement p) := by
  refine Reads.currentLine fun _ => ?_
  refine expression.bind fun _ _ => ?_
  refine (expectSemicolon_reads _).bind fun _ _ => ?_
  apply Reads.pure
  rintro ⟨_, stop, rfl, stops, rfl⟩ plain sameLine
  obtain ⟨first, more, rfl, -⟩ := begins _ _ plain
  rw [← sameLine first _ rfl]
  simpa using StatementForm.expression plain stops

theorem keywordStatement_reads (expression : Reads gaps phrase p)
    (begins : ∀ tokens e, phrase tokens e → Begins StartsOperand tokens)
    (block : ∀ owner, Reads gaps braces (body owner)) (token : Token) :
    Reads gaps (StatementForm phrase braces) (keywordStatement p body token) := by
  unfold keywordStatement
  split
  next => exact varStatement_reads expression
  next => exact cursorStatement_reads expression
  next => exact Reads.get fun s =>
    (ifStatement_reads expression block s.rest).mono (fun _ _ => .ifElse) s
  next => exact forStatement_reads expression begins block
  next => exact whileStatement_reads expression block
  next => exact doStatement_reads expression block
  next => exact functionStatement_reads block
  next => exact returnStatement_reads expression
  next => exact copyStatement_reads expression
  next => exact animateStatement_reads expression block
  next => exact Reads.fail

theorem statementOf_reads (expression : Reads gaps phrase p)
    (begins : ∀ tokens e, phrase tokens e → Begins StartsOperand tokens)
    (block : ∀ owner, Reads gaps braces (body owner)) :
    Reads gaps (StatementForm phrase braces) (statementOf p body) := by
  refine Reads.get fun s => ?_
  cases front : s.rest with
  | nil => exact Reads.fail s
  | cons token rest =>
    dsimp only
    split
    next => exact keywordStatement_reads expression begins block token s
    next =>
      refine (takes_reads _ _ s).bind fun _ taken t reaches => ?_
      cases taken with
      | true =>
        apply ReadsFrom.stay
        rintro ⟨_, stop, rfl, stops, rfl⟩
        obtain ⟨rfl, -⟩ : stop = token ∧ t.rest = rest := by simpa [front] using reaches.rest.symm
        exact .empty stops
      | false =>
        simp only [Bool.false_eq_true, if_false]
        split
        next =>
          refine ((block _).bind fun _ _ => ?_) t
          apply Reads.pure
          rintro inner rfl
          simpa using StatementForm.block inner
        next =>
          split
          next =>
            have form : Reads gaps (StatementForm phrase braces) (methodStatement p) :=
              methodStatement_reads expression
            refine form.mono ?_ t
            rintro _ _ spelled rfl
            exact spelled
          next =>
            have form : Reads gaps (StatementForm phrase braces) (expressionStatement p) :=
              expressionStatement_reads expression begins
            refine form.mono ?_ t
            rintro _ _ spelled rfl
            exact spelled

end

theorem attempt_reads {α : Type} {item : Spelling α} {p : Parser α} (reads : Reads gaps item p) :
    Reads gaps (fun tokens found => match found with
      | some value => item tokens value
      | none => gaps) (attempt p) := by
  intro s
  have read := reads s
  unfold ReadsFrom at read ⊢
  rw [run_attempt]
  cases run : p.run s with
  | ok value t =>
    simp only [run] at read ⊢
    exact read
  | error failure t =>
    simp only [run] at read
    obtain ⟨taken, reaches⟩ := read
    cases failure with
    | halted error => exact ⟨taken, reaches⟩
    | rejected error =>
      obtain ⟨dropped, resumes⟩ := State.Reaches.resume (t.report error) s.position
      have noted := reaches.trans (State.Reaches.report t error)
      refine ⟨_, noted.trans resumes, fun granted => granted.resolve_right fun same => ?_⟩
      have shorter := reaches.reported.length_le
      have silent : error :: t.reported = s.reported := (noted.silent resumes same).1
      rw [← silent, List.length_cons] at shorter
      omega

theorem tick_reads : Reads gaps (fun tokens _ => tokens = []) tick :=
  fun _ => ⟨[], ⟨rfl, rfl, rfl, rfl, List.suffix_refl _⟩, fun _ => rfl⟩

theorem report_reads (error : State → GrammarError) :
    Reads gaps (fun _ _ => gaps) (modify fun s => s.report (error s) : Parser Unit) := by
  intro s
  refine ⟨[], State.Reaches.report s (error s), fun granted => granted.resolve_right fun same => ?_⟩
  simp [State.report] at same

theorem outcome_reads {α : Type} {item : Spelling α} {p : Parser α} (reads : Reads gaps item p) :
    Reads gaps (fun tokens found => ∀ value, found = .ok value → item tokens value)
      (outcome p) := by
  intro s
  have read := reads s
  unfold ReadsFrom at read ⊢
  rw [run_outcome]
  cases run : p.run s with
  | ok value t =>
    simp only [run] at read ⊢
    obtain ⟨taken, reaches, spelled⟩ := read
    refine ⟨taken, reaches, ?_⟩
    rintro granted _ ⟨⟩
    exact spelled granted
  | error failure t =>
    simp only [run] at read ⊢
    obtain ⟨taken, reaches⟩ := read
    exact ⟨taken, reaches, fun _ _ impossible => nomatch impossible⟩

theorem statementsThroughBrace_reads {item : Spelling Statement} {p : Parser Statement}
    (reads : Reads gaps item p) (owner : Owner) (bound : List Token) :
    Reads gaps (fun tokens values => ∃ inner closing, tokens = inner ++ [closing] ∧
      closing.is .delimiter "\x7d" ∧ Mended gaps item inner values)
      (statementsThroughBrace owner p bound) := by
  induction bound with
  | nil => exact Reads.halt
  | cons _ bound ih =>
    refine (takes_reads _ _).bind fun _ taken => ?_
    cases taken with
    | true =>
      apply Reads.pure
      rintro ⟨_, closing, rfl, closes, rfl⟩
      exact ⟨[], closing, rfl, closes, .nil⟩
    | false =>
      refine atEnd_reads.bind fun _ ended => ?_
      cases ended with
      | true => exact Reads.halt
      | false =>
        refine tick_reads.bind fun _ exceeded => ?_
        cases exceeded with
        | true => exact Reads.halt
        | false =>
          refine (attempt_reads reads).bind fun dropped found => ?_
          cases found with
          | none =>
            refine ih.mono ?_
            rintro _ _ ⟨inner, closing, rfl, closes, later⟩ allowed rfl rfl rfl
            exact ⟨dropped ++ inner, closing, by simp, closes, .skip allowed later⟩
          | some value =>
            refine ih.bind fun _ _ => ?_
            apply Reads.pure
            rintro ⟨inner, closing, rfl, closes, later⟩ first rfl rfl rfl
            exact ⟨_ ++ inner, closing, by simp, closes, .cons first later⟩

theorem block_readsAs {blocks : Nat → Spelling (Block Statement)}
    (braced : ∀ {room : Nat} {opening closing : Token} {inner : List Token} {ss : List Statement},
      opening.is .delimiter "\x7b" → closing.is .delimiter "\x7d" →
      Mended gaps (StatementForm (Expression room) (blocks room)) inner ss →
      blocks (room + 1) (opening :: inner ++ [closing]) ⟨ss, opening.line⟩)
    (room : Nat) (owner : Owner) : Reads gaps (blocks room) (block room owner) := by
  induction room generalizing owner with
  | zero => exact Reads.currentLine fun _ => Reads.fail
  | succ room ih =>
    refine (expect_reads _ _).bind fun _ _ => ?_
    refine Reads.get fun s => ?_
    have form := statementOf_reads (expression_reads room) (fun _ _ => Expression.begins) ih
    refine ((statementsThroughBrace_reads form owner s.rest).bind fun _ _ => ?_) s
    apply Reads.pure
    rintro ⟨inner, closing, rfl, closes, later⟩ ⟨opening, rfl, opens, rfl⟩
    simpa using braced opens closes later

theorem statement_reads (room : Nat) : Reads False (StatementWithin room) (statement room) :=
  statementOf_reads (expression_reads room) (fun _ _ => Expression.begins)
    (block_readsAs (fun opens closes inner => Braced.braces opens inner.sequence closes) room)

theorem statement_mended (room : Nat) : Reads True (MendedStatement room) (statement room) :=
  statementOf_reads (expression_reads room) (fun _ _ => Expression.begins)
    (block_readsAs (fun opens closes inner => MendedBraces.braces opens inner closes) room)

theorem statements_readsFrom {item : Spelling Statement}
    (reads : Reads gaps item (statement maxNesting))
    (filled : gaps ∨ ∀ tokens x, item tokens x → 0 < tokens.length) (bound : List Token)
    (s : State) :
    ReadsFrom gaps s (fun tokens program => Mended gaps item tokens program ∧
      (gaps ∨ (s.rest.length ≤ bound.length → tokens = s.rest))) (statements bound) := by
  -- The loop also ends when its bound is used up, hence the second part: with a bound for every
  -- token left, nothing is left.
  induction bound generalizing s with
  | nil =>
    refine ReadsFrom.stay ⟨.nil, .inr fun enough => ?_⟩
    exact (List.eq_nil_of_length_eq_zero (Nat.le_zero.mp enough)).symm
  | cons _ bound ih =>
    change ReadsFrom gaps s _ (if s.rest.isEmpty then _ else _)
    split
    next ended =>
      refine ReadsFrom.stay ⟨.nil, .inr fun _ => ?_⟩
      exact (List.isEmpty_iff.mp ended).symm
    next =>
      refine (tick_reads s).bind fun _ exceeded t ticked => ?_
      cases exceeded with
      | true =>
        refine ((report_reads _).bind fun _ _ => ?_) t
        apply Reads.pure
        intro allowed _
        exact ⟨.dropped allowed _, .inl allowed⟩
      | false =>
        have tries := outcome_reads (attempt_reads reads)
        refine (tries t).bind fun taken found u tried => ?_
        match found with
        | .error failure =>
          refine ((report_reads fun _ => failure.error).bind fun _ _ => ?_) u
          apply Reads.pure
          intro allowed _ _
          exact ⟨.dropped allowed _, .inl allowed⟩
        | .ok none =>
          apply ReadsFrom.mono (ih u)
          rintro later values ⟨others, -⟩ read rfl
          have allowed : gaps := read none rfl
          have skipped : Mended gaps item (taken ++ later) values := .skip allowed others
          exact ⟨skipped, .inl allowed⟩
        | .ok (some value) =>
          refine (ih u).bind fun later values _ _ => ?_
          apply ReadsFrom.stay
          rintro ⟨others, exhausted⟩ read rfl
          have first : item taken value := read (some value) rfl
          refine ⟨by simpa using Mended.cons first others, ?_⟩
          refine exhausted.elim .inl fun all => filled.imp_right fun moves enough => ?_
          have split : s.rest = taken ++ u.rest := ticked.rest.trans tried.rest
          have moved := moves _ _ first
          have shorter : u.rest.length ≤ bound.length := by
            rw [split, List.length_append, List.length_cons] at enough
            omega
          rw [split, all shorter]
          simp

end DrawScript.Grammar
