import DrawScript.Proofs.Grammar.Acceptance
import DrawScript.Proofs.Grammar.Levels
import DrawScript.Proofs.Grammar.Occurrence
import DrawScript.Proofs.Grammar.Recovery.Program

set_option autoImplicit false

namespace DrawScript.Grammar

/-- How a parser can come back: with a value, or because of a semicolon that is not there. -/
def answer {α : Type} (result : Except Closing α) (t : State) : EStateM.Result Failure State α :=
  match result with
  | .ok value => .ok value t
  | .error closing => .error (.rejected ⟨t.previous, .missingSemicolon closing⟩) t

/-- Wherever the tokens stand before the rest, the parser takes them and comes back with this
result; it reports these errors. -/
def Results {α : Type} (p : Parser α) (tokens : List Token) (result : Except Closing α)
    (errors : List GrammarError) (rest : List Token) : Prop :=
  ∀ s : State, s.limit = none → s.rest = tokens ++ rest →
    ∃ t, p.run s = answer result t ∧ s.Reaches tokens t ∧ t.reported = errors ++ s.reported

namespace Results

variable {α β : Type} {p q : Parser α} {f : α → Parser β} {first tokens rest : List Token}
  {value : α} {final : β} {result : Except Closing β} {found : Except Closing α}
  {errors : List GrammarError}

theorem of_run (results : Results q tokens found errors rest)
    (same : ∀ s : State, s.rest = tokens ++ rest → p.run s = q.run s) :
    Results p tokens found errors rest := by
  intro s unlimited front
  rw [same s front]
  exact results s unlimited front

theorem after (yields : Yields p first value (tokens ++ rest))
    (continues : Results (f value) tokens result errors rest) :
    Results (p >>= f) (first ++ tokens) result errors rest := by
  intro s unlimited front
  obtain ⟨t, run, passes⟩ :=
    yields s (by rw [front, List.append_assoc]) (.of_unlimited unlimited 1)
  have left : t.rest = tokens ++ rest := passes.rest_eq (by rw [front, List.append_assoc])
  obtain ⟨u, runLater, reaches, reported⟩ := continues t (passes.limit.trans unlimited) left
  refine ⟨u, ?_, passes.toReaches.trans reaches, by rw [reported, passes.silent]⟩
  rw [EStateM.run_bind, run]
  exact runLater

theorem token {token : Token} (yields : Yields p [token] value (tokens ++ rest))
    (continues : Results (f value) tokens result errors rest) :
    Results (p >>= f) (token :: tokens) result errors rest :=
  after yields continues

theorem look (yields : Yields p [] value (tokens ++ rest))
    (continues : Results (f value) tokens result errors rest) :
    Results (p >>= f) tokens result errors rest :=
  after yields continues

theorem get {f : State → Parser α}
    (continues : ∀ s : State, s.rest = tokens ++ rest → Results (f s) tokens found errors rest) :
    Results (MonadState.get >>= f) tokens found errors rest :=
  fun s unlimited front => continues s front s unlimited front

theorem currentLine {f : Nat → Parser α}
    (continues : ∀ line, Results (f line) tokens found errors rest) :
    Results (Grammar.currentLine >>= f) tokens found errors rest :=
  fun s => continues s.line s

theorem before (results : Results p first (.ok value) errors (tokens ++ rest))
    (continues : Yields (f value) tokens final rest) :
    Results (p >>= f) (first ++ tokens) (.ok final) errors rest := by
  intro s unlimited front
  obtain ⟨t, run, reaches, reported⟩ := results s unlimited (by rw [front, List.append_assoc])
  have left : t.rest = tokens ++ rest :=
    List.append_cancel_left (reaches.rest.symm.trans (by rw [front, List.append_assoc]))
  obtain ⟨u, runLater, passes⟩ :=
    continues t left (.of_unlimited (reaches.limit.trans unlimited) 1)
  refine ⟨u, ?_, reaches.trans passes.toReaches, by rw [passes.silent, reported]⟩
  rw [EStateM.run_bind, run]
  exact runLater

theorem finish (results : Results p tokens (.ok value) errors rest)
    (continues : Yields (f value) [] final rest) :
    Results (p >>= f) tokens (.ok final) errors rest := by
  have whole : Results (p >>= f) (tokens ++ []) (.ok final) errors rest := before results continues
  rwa [List.append_nil] at whole

end Results

def Lacks {α : Type} (p : Parser α) (tokens : List Token) (closing : Closing) (rest : List Token) :
    Prop :=
  Results p tokens (.error closing) [] rest

theorem expectSemicolon_lacks {α : Type} {f : Unit → Parser α} (closing : Closing)
    {rest : List Token} (noStop : ¬Begins (·.is .delimiter ";") rest) :
    Lacks (expectSemicolon closing >>= f) [] closing rest := by
  have missing : Lacks (expectSemicolon closing) [] closing rest :=
    Results.look (takes_passed noStop) fun s _ _ => ⟨s, rfl, .refl s, rfl⟩
  intro s unlimited front
  obtain ⟨t, run, reaches, silent⟩ := missing s unlimited front
  refine ⟨t, ?_, reaches, silent⟩
  rw [EStateM.run_bind, run]
  rfl

theorem Lacks.after {α β : Type} {p : Parser α} {f : α → Parser β} {tokens rest : List Token}
    {value : α} {closing : Closing} (yields : Yields p tokens value rest)
    (lacks : Lacks (f value) [] closing rest) : Lacks (p >>= f) tokens closing rest := by
  have whole : Lacks (p >>= f) (tokens ++ []) closing rest := Results.after yields lacks
  rwa [List.append_nil] at whole

def Followed (rest : List Token) : Prop :=
  ∀ next ∈ rest.head?, next.is .delimiter "\x7d" ∨ startsStatement next

theorem startsStatement_keyword {token : Token} (starts : startsStatement token) :
    ∃ text ∈ statementKeywords, token.is .keyword text := by
  simpa [startsStatement] using starts

namespace Followed

variable {rest : List Token}

theorem noStop (followed : Followed rest) : ¬Begins (·.is .delimiter ";") rest := by
  rintro ⟨next, more, rfl, isStop⟩
  rcases followed next rfl with closes | starts
  next => simp [Token.is_of_is closes] at isStop
  next =>
    obtain ⟨_, -, isKeyword⟩ := startsStatement_keyword starts
    simp [Token.is_of_is isKeyword] at isStop

theorem noPoint (followed : Followed rest) : ∀ next ∈ rest.head?, next.kind ≠ .access := by
  intro next member
  rcases followed next member with closes | starts
  next => simp [(Token.is_iff.mp closes).1]
  next =>
    obtain ⟨_, -, isKeyword⟩ := startsStatement_keyword starts
    simp [(Token.is_iff.mp isKeyword).1]

theorem ended (followed : Followed rest) : Ended rest := by
  cases rest with
  | nil => exact ⟨by simp [Stops], by simp [Begins]⟩
  | cons next more =>
    rcases followed next rfl with closes | starts
    next =>
      have kind := (Token.is_iff.mp closes).1
      exact .of_kind (by simp [kind]) (by simp [kind]) (by simp [Token.is_of_is closes]) more
    next =>
      obtain ⟨_, -, isKeyword⟩ := startsStatement_keyword starts
      have kind := (Token.is_iff.mp isKeyword).1
      exact .of_kind (by simp [kind]) (by simp [kind]) (by simp [Token.is_of_is isKeyword]) more

theorem dropCount_eq_zero (followed : Followed rest) : dropCount true rest = 0 := by
  cases rest with
  | nil => rfl
  | cons next more =>
    rcases followed next rfl with closes | starts
    next => simp [dropCount, Token.is_of_is closes]
    next =>
      obtain ⟨_, -, isKeyword⟩ := startsStatement_keyword starts
      simp [dropCount, Token.is_of_is isKeyword, starts]

end Followed

def closing? : Statement → Option Closing
  | .var name _ _ _ => some (.var name)
  | .cursor name _ _ => some (.cursorVar name)
  | .returnValue (some _) _ => some .returnValue
  | .copy .. => some .copy
  | .doWhile .. => some .doWhile
  | .method cursor name _ _ => some (.method cursor name)
  | .expression .. => some .expression
  | _ => none

section Forms

variable {phrase : Spelling Expr} {braces : Spelling (Block Statement)} {p : Parser Expr}
  {body : BlockParser} (expression : Covers phrase Ended p)
  (begins : ∀ tokens e, phrase tokens e → Begins StartsOperand tokens)
  (block : ∀ owner, Covers braces (fun _ => True) (body owner))
  {keyword name sign again point separator : Token} {tokens others rest : List Token}
  {arguments : List Expr} {e : Expr} {b : Block Statement} (followed : Followed rest)

include expression followed

theorem varStatement_lacks {s : Statement} (declared : VarDeclaration phrase tokens s) :
    ∃ name, (∃ type initial line, s = .var name type initial line) ∧
      Lacks (varStatement p) tokens (.var name) rest := by
  obtain ⟨name, isVar, read⟩ := varDeclaration_yields expression declared followed.ended
  exact ⟨name, isVar, .after read (expectSemicolon_lacks _ followed.noStop)⟩

theorem expressionStatement_lacks (plain : phrase tokens e) :
    Lacks (expressionStatement p) tokens .expression rest := by
  refine Results.currentLine fun _ => ?_
  exact Lacks.after (expression _ _ _ plain followed.ended)
    (expectSemicolon_lacks _ followed.noStop)

include begins

theorem cursorStatement_lacks (isCursor : keyword.is .keyword "Cursor")
    (named : name.kind = .identifier) (isSign : sign.is .assign "=")
    (isAgain : again.is .keyword "Cursor") (items : Parenthesized phrase tokens arguments) :
    Lacks (cursorStatement p) (keyword :: name :: sign :: again :: tokens) (.cursorVar name.text)
      rest := by
  have inner := expression.mono fun _ => Ended.of_closed
  apply Results.token (expect_yields isCursor)
  apply Results.token (expectName_yields named)
  apply Results.token (expect_yields isSign)
  apply Results.token (expect_yields isAgain)
  exact Lacks.after (parenthesized_yields inner begins items)
    (expectSemicolon_lacks _ followed.noStop)

theorem returnStatement_lacks (isReturn : keyword.is .keyword "return")
    (result : phrase tokens e) :
    Lacks (returnStatement p) (keyword :: tokens) .returnValue rest := by
  apply Results.token (expect_yields isReturn)
  exact Lacks.after (optional_present expression begins (by decide) result followed.ended)
    (expectSemicolon_lacks _ followed.noStop)

theorem copyStatement_lacks {destination : List Expr} (isCopy : keyword.is .keyword "copy")
    (taken : Parenthesized phrase tokens arguments) (four : arguments.length = 4)
    (isTo : separator.is .keyword "to") (put : Parenthesized phrase others destination)
    (two : destination.length = 2) :
    Lacks (copyStatement p) (keyword :: tokens ++ separator :: others) .copy rest := by
  have inner := expression.mono fun _ => Ended.of_closed
  apply Results.token (expect_yields isCopy)
  refine Results.after (copyArguments_yields inner begins taken four) ?_
  apply Results.token (expect_yields isTo)
  exact Lacks.after (copyArguments_yields inner begins put two)
    (expectSemicolon_lacks _ followed.noStop)

theorem methodStatement_lacks (isCursor : keyword.kind = .identifier)
    (isPoint : point.is .access ".") (named : name.kind = .identifier)
    (items : Parenthesized phrase tokens arguments) :
    Lacks (methodStatement p) (keyword :: point :: name :: tokens)
      (.method keyword.text name.text) rest := by
  have inner := expression.mono fun _ => Ended.of_closed
  refine Results.currentLine fun _ => ?_
  apply Results.token (expectName_yields isCursor)
  apply Results.token (expect_yields isPoint)
  apply Results.token (expectName_yields named)
  exact Lacks.after (parenthesized_yields inner begins items)
    (expectSemicolon_lacks _ followed.noStop)

omit begins
include block

theorem doStatement_lacks (isDo : keyword.is .keyword "do") (repeated : braces others b)
    (isWhile : separator.is .keyword "while") (tested : Condition phrase tokens e) :
    Lacks (doStatement p body) (keyword :: others ++ separator :: tokens) .doWhile rest := by
  have inner := expression.mono fun _ => Ended.of_closed
  apply Results.token (expect_yields isDo)
  apply Results.after (block _ _ _ _ repeated trivial)
  apply Results.token (expect_yields isWhile)
  exact Lacks.after (condition_yields inner tested) (expectSemicolon_lacks _ followed.noStop)

end Forms

theorem Results.keyword {p : Parser Expr} {body : BlockParser} {token : Token} {text : String}
    {more rest : List Token} {result : Except Closing Statement} {errors : List GrammarError}
    (isKeyword : token.is .keyword text)
    (results : Results (keywordStatement p body token) (token :: more) result errors rest) :
    Results (statementOf p body) (token :: more) result errors rest :=
  results.of_run fun _ front => run_statementOf_keyword front isKeyword

theorem StatementForm.lacks {phrase : Spelling Expr} {braces : Spelling (Block Statement)}
    {p : Parser Expr} {body : BlockParser} (expression : Covers phrase Ended p)
    (begins : ∀ tokens e, phrase tokens e → Begins StartsOperand tokens)
    (unbroken : ∀ tokens e, phrase tokens e → Unbroken tokens)
    (block : ∀ owner, Covers braces (fun _ => True) (body owner)) {own : List Token}
    {s : Statement} {closing : Closing} (spelled : StatementForm phrase braces own s)
    (closed : closing? s = some closing) :
    ∃ content stop, own = content ++ [stop] ∧ content ≠ [] ∧
      ∀ rest, Followed rest → Lacks (statementOf p body) content closing rest := by
  cases spelled with
  | @var content stop s declared =>
    refine ⟨content, stop, rfl, ?_, fun rest followed => ?_⟩
    next =>
      cases declared
      simp
    next =>
      obtain ⟨name, ⟨_, _, _, rfl⟩, lacks⟩ := varStatement_lacks expression followed declared
      cases closed
      cases declared with
      | declare isVar =>
        refine Results.keyword isVar ?_
        simp only [keywordStatement, Token.text_of_is isVar]
        exact lacks
  | cursor isCursor named isSign isAgain items =>
    cases closed
    refine ⟨_, _, rfl, by simp, fun rest followed => ?_⟩
    refine Results.keyword isCursor ?_
    simp only [keywordStatement, Token.text_of_is isCursor]
    exact cursorStatement_lacks expression begins followed isCursor named isSign isAgain items
  | ifElse chain => cases chain <;> cases closed
  | doWhile isDo repeated isWhile tested =>
    cases closed
    refine ⟨_, _, rfl, by simp, fun rest followed => ?_⟩
    refine Results.keyword isDo ?_
    simp only [keywordStatement, Token.text_of_is isDo]
    exact doStatement_lacks expression block followed isDo repeated isWhile tested
  | returnValue isReturn result =>
    cases result with
    | none => cases closed
    | some present =>
      cases closed
      refine ⟨_, _, rfl, by simp, fun rest followed => ?_⟩
      refine Results.keyword isReturn ?_
      simp only [keywordStatement, Token.text_of_is isReturn]
      exact returnStatement_lacks expression begins followed isReturn present
  | copy isCopy taken four isTo put two =>
    cases closed
    refine ⟨_, _, rfl, by simp, fun rest followed => ?_⟩
    refine Results.keyword isCopy ?_
    simp only [keywordStatement, Token.text_of_is isCopy]
    exact copyStatement_lacks expression begins followed isCopy taken four isTo put two
  | @method cursor point name stop tokens arguments isCursor isPoint named items =>
    cases closed
    refine ⟨_, _, rfl, by simp, fun rest followed => ?_⟩
    have lacks :=
      methodStatement_lacks expression begins followed isCursor isPoint named items
    refine lacks.of_run fun s front => ?_
    have front : s.rest = cursor :: point :: name :: (tokens ++ rest) := front
    rw [run_statementOf_simple front (by simp [isCursor]) (by simp [Token.is, isCursor])
      (by simp [Token.is, isCursor]), startsMethod_eq_true isCursor isPoint named items]
    rfl
  | @expression first stop tokens e plain =>
    cases closed
    refine ⟨_, _, rfl, by simp, fun rest followed => ?_⟩
    have lacks := expressionStatement_lacks expression followed plain
    obtain ⟨_, _, ⟨⟩, starts⟩ := begins _ _ plain
    have noMethod : startsMethod (first :: (tokens ++ rest)) = false := by
      apply startsMethod_eq_false
      cases tokens with
      | nil => exact followed.noPoint
      | cons second more => simpa using (unbroken _ _ plain second (by simp)).1
    refine lacks.of_run fun s front => ?_
    have front : s.rest = first :: (tokens ++ rest) := front
    rw [run_statementOf_simple front starts.1 (starts.noDelimiter (by decide))
      (starts.noDelimiter (by decide)), noMethod]
    rfl
  | forLoop | whileLoop | function | animate | block | empty => cases closed

section

variable {α : Type} {p : Parser α} {tokens rest : List Token}

theorem Results.attempt {value : α} {errors : List GrammarError}
    (results : Results p tokens (.ok value) errors rest) :
    Results (Grammar.attempt p) tokens (.ok (some value)) errors rest := by
  intro s unlimited front
  obtain ⟨t, run, reaches, reported⟩ := results s unlimited front
  refine ⟨t, ?_, reaches, reported⟩
  rw [run_attempt, run]
  rfl

theorem Lacks.attempt {last : Token} {closing : Closing}
    (lacks : Lacks p (tokens ++ [last]) closing rest) (followed : Followed rest) :
    Results (Grammar.attempt p) (tokens ++ [last]) (.ok none)
      [⟨last.line, .missingSemicolon closing⟩] rest := by
  intro s unlimited front
  obtain ⟨t, run, reaches, silent⟩ := lacks s unlimited front
  have left : t.rest = rest := List.append_cancel_left (reaches.rest.symm.trans front)
  have moved : s.position < t.position := by
    rw [reaches.position, List.length_append, List.length_singleton]
    omega
  have line : t.previous = last.line := by simp [reaches.previous]
  have stays (error : GrammarError) :
      (t.report error).resume s.position = t.report error := by
    have none : dropCount true t.rest = 0 := left ▸ followed.dropCount_eq_zero
    simp only [State.resume, State.report, moved, decide_true, none]
    rw [if_neg (by omega)]
    rfl
  refine ⟨t.report ⟨last.line, .missingSemicolon closing⟩, ?_,
    by simpa using reaches.trans (.report t _), by simp [State.report, silent]⟩
  rw [run_attempt, run]
  simp only [answer, line, stays]

end

section

variable {phrase : Spelling Expr} {braces : Spelling (Block Statement)} {p : Parser Expr}
  {body : BlockParser} (expression : Covers phrase Closed p)
  (begins : ∀ tokens e, phrase tokens e → Begins StartsOperand tokens)
  (block : ∀ owner, Covers braces (fun _ => True) (body owner))
  (opensBlock : ∀ tokens b, braces tokens b → Begins (·.is .delimiter "\x7b") tokens)
  {pre post hole rest : List Token} {shape : Block Statement → Statement} {b : Block Statement}
  {errors : List GrammarError} (opens : Begins (·.is .delimiter "\x7b") hole)
  (filled : ∀ owner rest, Results (body owner) hole (.ok b) errors rest)

include expression block opensBlock opens filled

theorem AroundIf.results (around : AroundIf phrase braces pre post shape)
    (noElse : ¬Begins (·.is .keyword "else") rest) (bound : List Token)
    (enough : (pre ++ hole ++ post ++ rest).length ≤ bound.length) :
    Results (ifStatement p body bound) (pre ++ hole ++ post) (.ok (shape b)) errors rest := by
  induction around generalizing bound with
  | plain isIf tested =>
    cases bound with
    | nil => simp at enough
    | cons _ bound =>
      rw [ifStatement_cons, List.append_nil]
      apply Results.token (expect_yields isIf)
      apply Results.after (condition_yields expression tested)
      exact Results.finish (filled _ _) (elsePart_absent noElse)
  | otherwise isIf tested isElse second =>
    cases bound with
    | nil => simp at enough
    | cons _ bound =>
      rw [ifStatement_cons]
      simp only [List.cons_append, List.append_assoc]
      apply Results.token (expect_yields isIf)
      apply Results.after (condition_yields expression tested)
      exact Results.before (filled _ _) (elsePart_block block opensBlock isElse second)
  | elseIf isIf tested isElse second =>
    cases bound with
    | nil => simp at enough
    | cons _ bound =>
      rw [ifStatement_cons]
      simp only [List.cons_append, List.append_assoc]
      apply Results.token (expect_yields isIf)
      apply Results.after (condition_yields expression tested)
      have linked := ifStatement_yields expression block opensBlock second noElse bound (by
        simp only [List.length_append, List.length_cons] at enough ⊢
        omega)
      exact Results.before (filled _ _) (elsePart_link isElse second.begins linked)
  | elseBlock isIf tested first isElse =>
    cases bound with
    | nil => simp at enough
    | cons _ bound =>
      rw [ifStatement_cons]
      simp only [List.cons_append, List.append_assoc, List.append_nil, List.nil_append]
      apply Results.token (expect_yields isIf)
      apply Results.after (condition_yields expression tested)
      apply Results.after (block _ _ _ _ first trivial)
      apply Results.look (currentLine_yields rfl)
      apply Results.token (takes_yields isElse)
      obtain ⟨opening, more, rfl, isOpening⟩ := opens
      apply Results.look (sees_yields _ _)
      simp only [List.cons_append, List.head?_cons, Option.any_some, Token.is_of_is isOpening]
      exact Results.finish (filled _ _) .pure
  | link isIf tested first isElse inner ih =>
    cases bound with
    | nil => simp at enough
    | cons _ bound =>
      rw [ifStatement_cons]
      simp only [List.cons_append, List.append_assoc]
      apply Results.token (expect_yields isIf)
      apply Results.after (condition_yields expression tested)
      apply Results.after (block _ _ _ _ first trivial)
      apply Results.look (currentLine_yields rfl)
      apply Results.token (takes_yields isElse)
      have linked := ih bound (by
        simp only [List.length_append, List.length_cons] at enough ⊢
        omega)
      obtain ⟨keyword, more, rfl, isKeyword⟩ := inner.begins
      apply Results.look (sees_yields _ _)
      simp only [List.cons_append, List.head?_cons, Option.any_some, isKeyword, if_true]
      exact Results.finish (by simpa using linked) .pure

include begins

theorem Around.results (around : Around phrase braces pre post shape)
    (noElse : ¬Begins (·.is .keyword "else") rest) :
    Results (statementOf p body) (pre ++ hole ++ post) (.ok (shape b)) errors rest := by
  cases around with
  | block =>
    obtain ⟨opening, more, rfl, isOpening⟩ := opens
    have read : Results (do return Statement.block (← body ⟨.block, opening.line⟩))
        (opening :: more) (.ok (.block b)) errors rest := .finish (filled _ _) .pure
    rw [List.nil_append, List.append_nil]
    exact read.of_run fun s front => run_statementOf_block front isOpening
  | ifElse chain =>
    have read (bound : List Token) (enough : (pre ++ hole ++ post ++ rest).length ≤ bound.length) :=
      chain.results expression block opensBlock opens filled noElse bound enough
    obtain ⟨keyword, more, rfl, isIf⟩ := chain.begins
    refine Results.keyword isIf ?_
    simp only [keywordStatement, Token.text_of_is isIf]
    exact Results.get fun t front => read t.rest (Nat.le_of_eq (by rw [front]; rfl))
  | forLoop isFor opensHeader starts stops tested stopsAgain stepped closes =>
    simp only [List.cons_append, List.append_assoc, List.append_nil, List.nil_append]
    refine Results.keyword isFor ?_
    simp only [keywordStatement, Token.text_of_is isFor]
    apply Results.token (expect_yields isFor)
    apply Results.token (expect_yields opensHeader)
    apply Results.after (forInitial_covers expression begins _ _ _ starts ⟨_, _, rfl, stops⟩)
    apply Results.token (expect_yields stops)
    refine Results.after (optional_covers expression begins (by decide) _ _ _ tested
      ⟨_, _, rfl, stopsAgain⟩) ?_
    apply Results.token (expect_yields stopsAgain)
    refine Results.after (optional_covers expression begins (by decide) _ _ _ stepped
      ⟨_, _, rfl, closes⟩) ?_
    apply Results.token (expect_yields closes)
    exact Results.finish (filled _ _) .pure
  | whileLoop isWhile tested =>
    rw [List.append_nil]
    refine Results.keyword isWhile ?_
    simp only [keywordStatement, Token.text_of_is isWhile]
    apply Results.token (expect_yields isWhile)
    apply Results.after (condition_yields expression tested)
    exact Results.finish (filled _ _) .pure
  | doWhile isDo isWhile tested stops =>
    refine Results.keyword isDo ?_
    simp only [keywordStatement, Token.text_of_is isDo]
    apply Results.token (expect_yields isDo)
    apply Results.before (filled _ _)
    apply Yields.token (expect_yields isWhile)
    apply Yields.bind (condition_yields expression tested)
    exact Yields.token (expectSemicolon_yields stops) .pure
  | function isFunction named items =>
    rw [List.append_nil]
    refine Results.keyword isFunction ?_
    simp only [keywordStatement, Token.text_of_is isFunction]
    apply Results.token (expect_yields isFunction)
    apply Results.token (expectName_yields named)
    apply Results.after (parameters_yields items)
    exact Results.finish (filled _ _) .pure
  | animate isAnimate opensList left isComma right closes =>
    simp only [List.cons_append, List.append_assoc, List.append_nil, List.nil_append]
    refine Results.keyword isAnimate ?_
    simp only [keywordStatement, Token.text_of_is isAnimate]
    apply Results.token (expect_yields isAnimate)
    apply Results.token (expect_yields opensList)
    apply Results.after (expression _ _ _ left (.of_is isComma (by decide) _))
    apply Results.token (expect_yields isComma)
    apply Results.after (expression _ _ _ right (.of_is closes (by decide) _))
    apply Results.token (expect_yields closes)
    exact Results.finish (filled _ _) .pure

end

section

variable {item rest : List Token} {found : Option Statement} {errors : List GrammarError}
  (begins : Begins StartsStatement item)

include begins

theorem statementsThroughBrace_tried {p : Parser Statement}
    (tried : Results (attempt p) item (.ok found) errors rest) {s : State}
    (unlimited : s.limit = none) (front : s.rest = item ++ rest) (owner : Owner) (token : Token)
    (bound : List Token) :
    ∃ t, (statementsThroughBrace owner p (token :: bound)).run s =
        (do return found.toList ++ (← statementsThroughBrace owner p bound)).run t ∧
      s.Reaches item t ∧ t.reported = errors ++ s.reported := by
  obtain ⟨t, run, reaches, reported⟩ := tried s.count unlimited front
  refine ⟨t, ?_, (State.Reaches.count s).trans reaches, reported⟩
  obtain ⟨first, more, rfl, starts⟩ := begins
  have unseen : ¬s.sees .delimiter "\x7d" := by simpa [State.sees, front] using starts.2
  have present : s.rest.isEmpty = false := by rw [front]; rfl
  have within : s.limit.any (· < s.steps + 1) = false := by simp [unlimited]
  have run : (attempt p).run { s with steps := s.steps + 1 } = .ok found t := run
  rw [statementsThroughBrace, EStateM.run_bind, run_takes, if_neg unseen]
  simp only [Bool.false_eq_true, if_false, EStateM.run_bind, run_atEnd, present, run_tick, within,
    run]
  cases found with
  | none => cases (statementsThroughBrace owner p bound).run t <;> rfl
  | some value =>
    rw [EStateM.run_bind]
    cases (statementsThroughBrace owner p bound).run t <;> rfl

theorem statements_tried
    (tried : Results (attempt (statement maxNesting)) item (.ok found) errors rest)
    {s : State} (unlimited : s.limit = none) (front : s.rest = item ++ rest) (token : Token)
    (bound : List Token) :
    ∃ t, (statements (token :: bound)).run s =
        (do return found.toList ++ (← statements bound)).run t ∧
      s.Reaches item t ∧ t.reported = errors ++ s.reported := by
  obtain ⟨t, run, reaches, reported⟩ := tried s.count unlimited front
  refine ⟨t, ?_, (State.Reaches.count s).trans reaches, reported⟩
  obtain ⟨first, more, rfl, starts⟩ := begins
  rw [run_statements token bound (by simp [front]) (by simp [unlimited]), run, EStateM.run_bind]
  cases found with
  | none =>
    simp only [answer]
    cases (statements bound).run t <;> rfl
  | some value =>
    simp only [answer]
    cases (statements bound).run t <;> rfl

end

theorem StartsStatement.noElse {item : List Token} (begins : Begins StartsStatement item)
    (rest : List Token) : ¬Begins (·.is .keyword "else") (item ++ rest) := by
  obtain ⟨first, more, rfl, starts⟩ := begins
  rintro ⟨_, _, ⟨⟩, isElse⟩
  exact starts.1 isElse

structure Patched (room : Nat) (tokens : List Token) (values : List Statement)
    (errors : List GrammarError) (follow : List Token → Prop) : Prop where
  split : ∃ outer earlier item found others further,
    tokens = outer ++ (item ++ others) ∧ values = earlier ++ (found.toList ++ further) ∧
    Sequence (StatementWithin room) outer earlier ∧ Begins StartsStatement item ∧
    Sequence (StatementWithin room) others further ∧
    ∀ rest, follow rest → ¬Begins (·.is .keyword "else") rest →
      Results (attempt (statement room)) item (.ok found) errors (others ++ rest)

namespace Patched

variable {room : Nat} {tokens : List Token} {values : List Statement} {errors : List GrammarError}
  {follow : List Token → Prop}

theorem throughBrace (patched : Patched room tokens values errors follow) {closing : Token}
    (closes : closing.is .delimiter "\x7d") (rest : List Token)
    (followed : follow (closing :: rest)) (owner : Owner) {s : State} (unlimited : s.limit = none)
    (front : s.rest = tokens ++ closing :: rest) (bound : List Token)
    (enough : s.rest.length ≤ bound.length) :
    ∃ t, (statementsThroughBrace owner (statement room) bound).run s = .ok values t ∧
      s.Reaches (tokens ++ [closing]) t ∧ t.reported = errors ++ s.reported := by
  obtain ⟨outer, earlier, item, found, others, further, rfl, rfl, first, begins, later, tried⟩ :=
    patched.split
  have front : s.rest = outer ++ (item ++ (others ++ closing :: rest)) := by simp [front]
  -- What stands before the statement is read, then the statement tried, then the others read.
  obtain ⟨t, remaining, walks, left, enough, run⟩ :=
    statementsThroughBrace_continue (statement_covers room) (fun _ _ => StatementWithin.begins)
      owner first (StartsStatement.noElse begins _) s front (.of_unlimited unlimited 0) bound enough
  have unlimitedThere : t.limit = none := walks.limit.trans unlimited
  cases remaining with
  | nil =>
    obtain ⟨_, _, rfl, -⟩ := begins
    simp at enough
  | cons token remaining =>
    obtain ⟨u, runTried, reaches, reported⟩ := statementsThroughBrace_tried begins
      (tried (closing :: rest) followed (Token.no_else closes rest)) unlimitedThere left owner token
      remaining
    have leftBehind : u.rest = others ++ closing :: rest :=
      List.append_cancel_left (reaches.rest.symm.trans left)
    obtain ⟨v, runLater, walksLater⟩ := statementsThroughBrace_walks (statement_covers room)
      (fun _ _ => StatementWithin.begins) owner later closes u leftBehind
      (.of_unlimited (reaches.limit.trans unlimitedThere) 0) remaining (by
        obtain ⟨_, _, rfl, -⟩ := begins
        rw [leftBehind]
        simp only [List.length_append, List.length_cons] at enough ⊢
        omega)
    refine ⟨v, ?_, ?_, ?_⟩
    next =>
      rw [run, EStateM.run_bind, runTried, EStateM.run_bind, runLater]
      rfl
    next => simpa using (walks.toReaches.trans reaches).trans walksLater.toReaches
    next => rw [walksLater.silent, reported, walks.silent]

theorem block (patched : Patched room tokens values errors follow) {opening closing : Token}
    (opens : opening.is .delimiter "\x7b") (closes : closing.is .delimiter "\x7d")
    (followed : ∀ rest, follow (closing :: rest)) (owner : Owner) (rest : List Token) :
    Results (Grammar.block (room + 1) owner) (opening :: tokens ++ [closing])
      (.ok ⟨values, opening.line⟩) errors rest := by
  intro s unlimited front
  have front : s.rest = opening :: (tokens ++ closing :: rest) := by simp [front]
  have reaches := State.Reaches.next front
  have left : s.next.rest = tokens ++ closing :: rest := by simp [State.next, front]
  obtain ⟨t, run, reachesLater, reported⟩ := patched.throughBrace closes rest (followed rest) owner
    (reaches.limit.trans unlimited) left s.next.rest (Nat.le_refl _)
  have run : (statementsThroughBrace owner (statementOf (expression room) (Grammar.block room))
      s.next.rest).run s.next = .ok values t := run
  refine ⟨t, ?_, reaches.trans reachesLater, ?_⟩
  next =>
    rw [Grammar.block, EStateM.run_bind, run_expect front opens]
    simp only [EStateM.run_bind, EStateM.run_get, run]
    rfl
  next => rw [reported]; simp [State.next, front]

theorem parse (patched : Patched maxNesting tokens values errors follow) (followed : follow []) :
    DrawScript.parse tokens = ⟨values, errors.reverse⟩ := by
  have same : parseWithin none tokens = DrawScript.parse tokens := parseWithin_eq_parse (by simp)
  obtain ⟨outer, earlier, item, found, others, further, rfl, rfl, first, begins, later, tried⟩ :=
    patched.split
  have noElse : ¬Begins (·.is .keyword "else") [] := by rintro ⟨_, _, ⟨⟩, -⟩
  obtain ⟨t, remaining, walks, left, enough, run⟩ :=
    statements_continue first (StartsStatement.noElse begins others)
      { rest := outer ++ (item ++ others), limit := none } rfl (.of_unlimited rfl 0) _
      (Nat.le_refl _)
  have unlimited : t.limit = none := walks.limit
  cases remaining with
  | nil =>
    obtain ⟨_, _, rfl, -⟩ := begins
    simp at enough
  | cons token remaining =>
    have triedHere := tried [] followed noElse
    rw [List.append_nil] at triedHere
    obtain ⟨u, runTried, reaches, reported⟩ :=
      statements_tried begins triedHere unlimited left token remaining
    have leftBehind : u.rest = others := List.append_cancel_left (reaches.rest.symm.trans left)
    obtain ⟨v, runLater, walksLater⟩ := statements_walks later u leftBehind
      (.of_unlimited (reaches.limit.trans unlimited) 0) remaining (by
        obtain ⟨_, _, rfl, -⟩ := begins
        rw [leftBehind]
        simp only [List.length_append, List.length_cons] at enough
        omega)
    have silent : v.reported = errors := by
      rw [walksLater.silent, reported, walks.silent, List.append_nil]
    rw [← same, parseWithin, run, EStateM.run_bind, runTried, EStateM.run_bind, runLater, ← silent]
    rfl

end Patched

theorem Begins.of_append {property : Token → Prop} {tokens others : List Token}
    (begins : Begins property (tokens ++ others)) (nonempty : tokens ≠ []) :
    Begins property tokens := by
  obtain ⟨first, more, rfl⟩ := List.exists_cons_of_ne_nil nonempty
  obtain ⟨_, _, ⟨⟩, holds⟩ := begins
  exact ⟨first, more, rfl, holds⟩

theorem Followed.behind {after rest other : List Token} {closing : Token}
    (followed : Followed (after ++ closing :: rest)) : Followed (after ++ closing :: other) := by
  cases after with
  | nil => exact followed
  | cons => exact followed

theorem Occurs.patched {room : Nat} {before own after : List Token} {whole less : List Statement}
    {s : Statement} {closing : Closing} (occurs : Occurs room before own after whole less s)
    (closed : closing? s = some closing) :
    ∃ content last stop, own = content ++ [last, stop] ∧
      Patched room (before ++ (content ++ [last] ++ after)) less
        [⟨last.line, .missingSemicolon closing⟩] fun rest => Followed (after ++ rest) := by
  induction occurs with
  | @here room before own after front back s first spelled later =>
    obtain ⟨own, stop, rfl, nonempty, lacks⟩ := spelled.lacks (expression_ended room)
      (fun _ _ => Expression.begins) (fun _ _ => Expression.unbroken) (block_covers room) closed
    have begins := spelled.begins.of_append nonempty
    obtain ⟨content, last, rfl⟩ : ∃ content last, own = content ++ [last] :=
      ⟨_, _, (List.dropLast_concat_getLast nonempty).symm⟩
    refine ⟨content, last, stop, by simp, ⟨before, front, content ++ [last], none, after, back,
      rfl, rfl, first, begins, later, fun rest followed _ => ?_⟩⟩
    exact (lacks _ followed).attempt followed
  | @inside room before own after outer pre post others opening closing front back whole less shape
      s first around opens inner closes later ih =>
    obtain ⟨content, last, stop, rfl, patched⟩ := ih closed
    have spelled : StatementWithin (room + 1) _ _ :=
      around.fill (Braced.braces opens inner.spelled closes)
    have begins : Begins StartsStatement (pre ++ [opening] ++
        (before ++ (content ++ [last, stop]) ++ after ++ closing :: post)) := by
      simpa using spelled.begins
    have begins := begins.of_append (by simp)
    refine ⟨content, last, stop, rfl, ⟨outer, front,
      pre ++ (opening :: (before ++ (content ++ [last] ++ after)) ++ [closing]) ++ post,
      some (shape ⟨less, opening.line⟩), others, back, by simp, rfl, first,
      by simpa using begins.append _, later, fun rest followed noElse => ?_⟩⟩
    have filled := patched.block opens closes fun rest =>
      Followed.behind (by simpa using followed)
    exact (around.results (expression_covers _) (fun _ _ => Expression.begins) (block_covers _)
      (fun _ _ => BlockWithin.begins) ⟨_, _, rfl, opens⟩ filled
      (later.noElse (fun _ _ => StatementWithin.begins) noElse)).attempt

/-- The token at this place is the last one of a statement, without which `less` is left. -/
def EndsAt (tokens : List Token) (i : Nat) (program : Program) (s : Statement) (less : Program) :
    Prop :=
  ∃ before own after, tokens = before ++ own ++ after ∧ i + 1 = (before ++ own).length ∧
    Occurs maxNesting before own after program less s

/-- The token at this place is one of the two semicolons in the header of a for loop. -/
def HeaderAt (tokens : List Token) (i : Nat) (program : Program) : Prop :=
  ∃ before header stop more after less s room,
    tokens = before ++ (header ++ stop :: more) ++ after ∧ i = (before ++ header).length ∧
    Occurs maxNesting before (header ++ stop :: more) after program less s ∧
    InHeader (Expression room) header

theorem endsAt_or_headerAt {tokens : List Token} {program : Program}
    (spelled : Script tokens program) {i : Nat} {stop : Token} (here : tokens[i]? = some stop)
    (isStop : stop.is .delimiter ";") :
    (∃ s less, EndsAt tokens i program s less) ∨ HeaderAt tokens i program := by
  obtain ⟨bound, rfl⟩ := List.getElem?_eq_some_iff.mp here
  have split : tokens.take i ++ tokens[i] :: tokens.drop (i + 1) = tokens := by
    rw [List.getElem_cons_drop, List.take_append_drop]
  have place : i = (tokens.take i).length := by
    rw [List.length_take]
    omega
  obtain ⟨outer, inner, more, others, less, s, occurs, front, back, kind⟩ :=
    Sequence.stop spelled isStop split
  rw [front, back] at split
  rw [front] at place
  rcases kind with rfl | ⟨room, inHeader⟩
  next =>
    refine .inl ⟨s, less, outer, inner ++ [tokens[i]], others, ?_, ?_, occurs⟩
    next => simpa using split.symm
    next => simpa [← Nat.add_assoc] using place
  next =>
    refine .inr ⟨outer, inner, tokens[i], more, others, less, s, room, ?_, place, occurs, inHeader⟩
    simpa using split.symm

theorem parse_eraseIdx_semicolon {tokens : List Token} {program : Program}
    (accepted : parse tokens = ⟨program, []⟩) {i : Nat} {stop : Token}
    (here : tokens[i]? = some stop) (isStop : stop.is .delimiter ";") :
    ((∃ s less, EndsAt tokens i program s less) ∨ HeaderAt tokens i program) ∧
    ∀ s less closing, EndsAt tokens i program s less → closing? s = some closing →
      (∀ next ∈ tokens[i + 1]?, next.is .delimiter "\x7d" ∨ startsStatement next) →
      ∃ previous, 0 < i ∧ tokens[i - 1]? = some previous ∧
        parse (tokens.eraseIdx i) = ⟨less, [⟨previous.line, .missingSemicolon closing⟩]⟩ ∧
        (Cause.missingSemicolon closing).message = "Missing ';' after " ++ closing.describe := by
  refine ⟨endsAt_or_headerAt (script_of_parseWithin accepted) here isStop, ?_⟩
  rintro s less closing ⟨before, own, after, rfl, place, occurs⟩ closed next
  obtain ⟨content, last, stop, rfl, patched⟩ := occurs.patched closed
  have place : i = (before ++ content).length + 1 := by
    simp only [List.length_append, List.length_cons, List.length_nil] at place ⊢
    omega
  have whole : before ++ (content ++ [last, stop]) ++ after =
      (before ++ content) ++ last :: stop :: after := by simp
  rw [whole, place] at next ⊢
  have followed : Followed (after ++ []) := by
    intro token member
    refine next token ?_
    rw [List.getElem?_append_right (by omega), Nat.add_assoc, Nat.add_sub_cancel_left]
    simpa [List.head?_eq_getElem?] using member
  have erased : ((before ++ content) ++ last :: stop :: after).eraseIdx
      ((before ++ content).length + 1) = before ++ (content ++ [last] ++ after) := by
    rw [List.eraseIdx_append_of_length_le (by omega)]
    simp
  refine ⟨last, by omega, by simp, ?_, rfl⟩
  rw [erased, patched.parse followed]
  rfl

def loopTokens : List Token :=
  [.ofLexeme .delimiter "\x7b" 1, .ofLexeme .keyword "do" 2, .ofLexeme .delimiter "\x7b" 2,
    .ofLexeme .delimiter "\x7d" 2, .ofLexeme .keyword "while" 3, .ofLexeme .delimiter "(" 3,
    .ofLexeme .identifier "a" 3, .ofLexeme .delimiter ")" 3, .ofLexeme .delimiter ";" 3,
    .ofLexeme .keyword "return" 4, .ofLexeme .identifier "b" 4, .ofLexeme .delimiter ";" 4,
    .ofLexeme .delimiter "\x7d" 5]

theorem parse_eraseIdx_semicolon_loop :
    parse loopTokens = ⟨[.block ⟨[.doWhile ⟨[], 2⟩ (.identifier "a") 2,
      .returnValue (some (.identifier "b")) 4], 1⟩], []⟩ ∧
    loopTokens[8]? = some (.ofLexeme .delimiter ";" 3) ∧
    EndsAt loopTokens 8 [.block ⟨[.doWhile ⟨[], 2⟩ (.identifier "a") 2,
      .returnValue (some (.identifier "b")) 4], 1⟩] (.doWhile ⟨[], 2⟩ (.identifier "a") 2)
      [.block ⟨[.returnValue (some (.identifier "b")) 4], 1⟩] ∧
    parse (loopTokens.eraseIdx 8) = ⟨[.block ⟨[.returnValue (some (.identifier "b")) 4], 1⟩],
      [⟨3, .missingSemicolon .doWhile⟩]⟩ := by
  have name (room line : Nat) (text : String) :
      Expression (room + 1) [.ofLexeme .identifier text line] (.identifier text) :=
    .value (Tiered.single (OperandForm.identifier (Token.is_ofLexeme .identifier text line)))
  have loop : StatementWithin 99 (.ofLexeme .keyword "do" 2 :: [.ofLexeme .delimiter "\x7b" 2,
      .ofLexeme .delimiter "\x7d" 2] ++ .ofLexeme .keyword "while" 3 ::
        [.ofLexeme .delimiter "(" 3, .ofLexeme .identifier "a" 3, .ofLexeme .delimiter ")" 3] ++
          [.ofLexeme .delimiter ";" 3]) (.doWhile ⟨[], 2⟩ (.identifier "a") 2) :=
    .doWhile rfl (Braced.braces rfl .nil rfl) rfl (.parenthesis rfl (name 98 3 "a") rfl) rfl
  have result : StatementWithin 99 (.ofLexeme .keyword "return" 4 ::
      [.ofLexeme .identifier "b" 4] ++ [.ofLexeme .delimiter ";" 4])
      (.returnValue (some (.identifier "b")) 4) :=
    .returnValue rfl (.some (name 98 4 "b")) rfl
  have accepted : parse loopTokens = ⟨[.block ⟨[.doWhile ⟨[], 2⟩ (.identifier "a") 2,
      .returnValue (some (.identifier "b")) 4], 1⟩], []⟩ := rfl
  have ends : EndsAt loopTokens 8 [.block ⟨[.doWhile ⟨[], 2⟩ (.identifier "a") 2,
      .returnValue (some (.identifier "b")) 4], 1⟩] (.doWhile ⟨[], 2⟩ (.identifier "a") 2)
      [.block ⟨[.returnValue (some (.identifier "b")) 4], 1⟩] := by
    have occurs := Occurs.inside .nil .block (Token.is_ofLexeme .delimiter "\x7b" 1)
      (.here .nil loop (.cons result .nil)) (Token.is_ofLexeme .delimiter "\x7d" 5) .nil
    exact ⟨_, _, _, rfl, rfl, occurs⟩
  obtain ⟨previous, -, found, missing, -⟩ :=
    (parse_eraseIdx_semicolon accepted rfl rfl).2 _ _ _ ends rfl (by rintro next ⟨⟩; exact .inr rfl)
  cases found
  exact ⟨accepted, rfl, ends, missing⟩

end DrawScript.Grammar
