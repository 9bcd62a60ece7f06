import DrawScript.Proofs.Grammar.Recovery.Semicolon

set_option autoImplicit false

namespace DrawScript.Grammar

section

variable (phrase : Spelling Expr) (braces : Spelling (Block Statement))

/-- The tokens of an if statement before one of its blocks, and the `if` that the block belongs
to: in a chain, the last one before it. -/
inductive HeadsIf : (pre : List Token) → Owner → Prop
  | first {keyword : Token} {tests : List Token} {test : Expr} (isIf : keyword.is .keyword "if")
      (tested : Condition phrase tests test) : HeadsIf (keyword :: tests) ⟨.ifElse, keyword.line⟩
  | second {keyword separator : Token} {tests thens : List Token} {test : Expr}
      {thenBlock : Block Statement} (isIf : keyword.is .keyword "if")
      (tested : Condition phrase tests test) (first : braces thens thenBlock)
      (isElse : separator.is .keyword "else") :
      HeadsIf (keyword :: tests ++ thens ++ [separator]) ⟨.ifElse, keyword.line⟩
  | link {keyword separator : Token} {tests thens pre : List Token} {test : Expr}
      {thenBlock : Block Statement} {owner : Owner} (isIf : keyword.is .keyword "if")
      (tested : Condition phrase tests test) (first : braces thens thenBlock)
      (isElse : separator.is .keyword "else") (inner : HeadsIf pre owner) :
      HeadsIf (keyword :: tests ++ thens ++ separator :: pre) owner

/-- The tokens of a statement before a brace that opens one of its blocks, and the construct that
this block belongs to. -/
inductive Heads : (pre : List Token) → (brace : Token) → Owner → Prop
  | block {brace : Token} : Heads [] brace ⟨.block, brace.line⟩
  | ifElse {pre : List Token} {brace : Token} {owner : Owner}
      (chain : HeadsIf phrase braces pre owner) : Heads pre brace owner
  | forLoop {keyword opening stop second closing brace : Token}
      {initials conditions increments : List Token} {initial : Option Statement}
      {condition increment : Option Expr} (isFor : keyword.is .keyword "for")
      (opens : opening.is .delimiter "(") (starts : ForInitial phrase initials initial)
      (stops : stop.is .delimiter ";") (tested : Optional phrase conditions condition)
      (stopsAgain : second.is .delimiter ";") (stepped : Optional phrase increments increment)
      (closes : closing.is .delimiter ")") :
      Heads (keyword :: opening :: initials ++ stop :: conditions ++ second :: increments ++
        [closing]) brace ⟨.forLoop, keyword.line⟩
  | whileLoop {keyword brace : Token} {tests : List Token} {test : Expr}
      (isWhile : keyword.is .keyword "while") (tested : Condition phrase tests test) :
      Heads (keyword :: tests) brace ⟨.whileLoop, keyword.line⟩
  | doWhile {keyword brace : Token} (isDo : keyword.is .keyword "do") :
      Heads [keyword] brace ⟨.doWhile, keyword.line⟩
  | function {keyword name brace : Token} {tokens : List Token} {parameters : List String}
      (isFunction : keyword.is .keyword "function") (named : name.kind = .identifier)
      (items : Parenthesized Identifier tokens parameters) :
      Heads (keyword :: name :: tokens) brace ⟨.function, keyword.line⟩
  | animate {keyword opening comma closing brace : Token} {firsts seconds : List Token}
      {first second : Expr} (isAnimate : keyword.is .keyword "animate")
      (opens : opening.is .delimiter "(") (left : phrase firsts first)
      (isComma : comma.is .delimiter ",") (right : phrase seconds second)
      (closes : closing.is .delimiter ")") :
      Heads (keyword :: opening :: firsts ++ comma :: seconds ++ [closing]) brace
        ⟨.animate, keyword.line⟩

end

/-- Where nothing but these tokens is left, the parser halts since the block of this construct is
not closed. -/
def Halts {α : Type} (p : Parser α) (tokens : List Token) (owner : Owner) : Prop :=
  ∀ s : State, s.limit = none → s.rest = tokens → ∃ t,
    p.run s = .error (.halted ⟨owner.line, .unclosed owner.construct owner.line⟩) t ∧
      t.reported = s.reported

namespace Halts

variable {α β : Type} {p q : Parser α} {f : α → Parser β} {first tokens : List Token} {value : α}
  {owner : Owner}

theorem of_run (halts : Halts q tokens owner)
    (same : ∀ s : State, s.rest = tokens → p.run s = q.run s) : Halts p tokens owner := by
  intro s unlimited front
  rw [same s front]
  exact halts s unlimited front

theorem bind (halts : Halts p tokens owner) : Halts (p >>= f) tokens owner := by
  intro s unlimited front
  obtain ⟨t, run, silent⟩ := halts s unlimited front
  exact ⟨t, by rw [EStateM.run_bind, run], silent⟩

theorem after (yields : Yields p first value tokens) (halts : Halts (f value) tokens owner) :
    Halts (p >>= f) (first ++ tokens) owner := by
  intro s unlimited front
  obtain ⟨t, run, passes⟩ := yields s front (.of_unlimited unlimited 1)
  obtain ⟨u, runLater, silent⟩ := halts t (passes.limit.trans unlimited) (passes.rest_eq front)
  refine ⟨u, ?_, silent.trans passes.silent⟩
  rw [EStateM.run_bind, run]
  exact runLater

theorem token {token : Token} (yields : Yields p [token] value tokens)
    (halts : Halts (f value) tokens owner) : Halts (p >>= f) (token :: tokens) owner :=
  after yields halts

theorem look (yields : Yields p [] value tokens) (halts : Halts (f value) tokens owner) :
    Halts (p >>= f) tokens owner :=
  after yields halts

theorem get {f : State → Parser α}
    (halts : ∀ s : State, s.rest = tokens → Halts (f s) tokens owner) :
    Halts (MonadState.get >>= f) tokens owner :=
  fun s unlimited front => halts s front s unlimited front

theorem attempt (halts : Halts p tokens owner) : Halts (Grammar.attempt p) tokens owner := by
  intro s unlimited front
  obtain ⟨t, run, silent⟩ := halts s unlimited front
  exact ⟨t, by rw [run_attempt, run], silent⟩

theorem keyword {p : Parser Expr} {body : BlockParser} {token : Token} {text : String}
    {more : List Token} (isKeyword : token.is .keyword text)
    (halts : Halts (keywordStatement p body token) (token :: more) owner) :
    Halts (statementOf p body) (token :: more) owner :=
  halts.of_run fun _ front => run_statementOf_keyword front isKeyword

end Halts

theorem HeadsIf.begins {phrase : Spelling Expr} {braces : Spelling (Block Statement)}
    {pre : List Token} {owner : Owner} (heads : HeadsIf phrase braces pre owner) :
    Begins (·.is .keyword "if") pre := by
  cases heads with
  | first isIf | second isIf | link isIf => exact ⟨_, _, rfl, isIf⟩

section

variable {phrase : Spelling Expr} {braces : Spelling (Block Statement)} {p : Parser Expr}
  {body : BlockParser} (expression : Covers phrase Closed p)
  (begins : ∀ tokens e, phrase tokens e → Begins StartsOperand tokens)
  (block : ∀ owner, Covers braces (fun _ => True) (body owner))
  {pre hole : List Token} {brace : Token} {owner blamed : Owner}
  (opens : brace.is .delimiter "\x7b") (unended : Halts (body owner) (brace :: hole) blamed)

include expression block opens unended

theorem HeadsIf.halts (heads : HeadsIf phrase braces pre owner) (bound : List Token)
    (enough : (pre ++ brace :: hole).length ≤ bound.length) :
    Halts (ifStatement p body bound) (pre ++ brace :: hole) blamed := by
  induction heads generalizing bound with
  | first isIf tested =>
    cases bound with
    | nil => simp at enough
    | cons _ bound =>
      rw [ifStatement_cons]
      apply Halts.token (expect_yields isIf)
      apply Halts.after (condition_yields expression tested)
      exact unended.bind
  | second isIf tested first isElse =>
    cases bound with
    | nil => simp at enough
    | cons _ bound =>
      rw [ifStatement_cons]
      simp only [List.cons_append, List.append_assoc, List.nil_append]
      apply Halts.token (expect_yields isIf)
      apply Halts.after (condition_yields expression tested)
      apply Halts.after (block _ _ _ _ first trivial)
      apply Halts.look (currentLine_yields rfl)
      apply Halts.token (takes_yields isElse)
      apply Halts.look (sees_yields _ _)
      simp only [List.head?_cons, Option.any_some, Token.is_of_is opens]
      exact unended.bind
  | link isIf tested first isElse inner ih =>
    cases bound with
    | nil => simp at enough
    | cons _ bound =>
      rw [ifStatement_cons]
      simp only [List.cons_append, List.append_assoc]
      apply Halts.token (expect_yields isIf)
      apply Halts.after (condition_yields expression tested)
      apply Halts.after (block _ _ _ _ first trivial)
      apply Halts.look (currentLine_yields rfl)
      apply Halts.token (takes_yields isElse)
      have linked := ih unended bound (by
        simp only [List.length_append, List.length_cons] at enough ⊢
        omega)
      obtain ⟨keyword, more, rfl, isKeyword⟩ := inner.begins
      apply Halts.look (sees_yields _ _)
      simp only [List.cons_append, List.head?_cons, Option.any_some, isKeyword, if_true]
      exact linked.bind

include begins

theorem Heads.halts (heads : Heads phrase braces pre brace owner) :
    Halts (statementOf p body) (pre ++ brace :: hole) blamed := by
  cases heads with
  | block => exact unended.bind.of_run fun s front => run_statementOf_block front opens
  | ifElse chain =>
    have read (bound : List Token) (enough : (pre ++ brace :: hole).length ≤ bound.length) :=
      chain.halts expression block opens unended bound enough
    obtain ⟨keyword, more, rfl, isIf⟩ := chain.begins
    refine Halts.keyword isIf ?_
    simp only [keywordStatement, Token.text_of_is isIf]
    exact Halts.get fun s front => read s.rest (Nat.le_of_eq (by rw [front]; rfl))
  | forLoop isFor opensHeader starts stops tested stopsAgain stepped closes =>
    simp only [List.cons_append, List.append_assoc, List.nil_append]
    refine Halts.keyword isFor ?_
    simp only [keywordStatement, Token.text_of_is isFor]
    apply Halts.token (expect_yields isFor)
    apply Halts.token (expect_yields opensHeader)
    apply Halts.after (forInitial_covers expression begins _ _ _ starts ⟨_, _, rfl, stops⟩)
    apply Halts.token (expect_yields stops)
    refine Halts.after (optional_covers expression begins (by decide) _ _ _ tested
      ⟨_, _, rfl, stopsAgain⟩) ?_
    apply Halts.token (expect_yields stopsAgain)
    refine Halts.after (optional_covers expression begins (by decide) _ _ _ stepped
      ⟨_, _, rfl, closes⟩) ?_
    apply Halts.token (expect_yields closes)
    exact unended.bind
  | whileLoop isWhile tested =>
    refine Halts.keyword isWhile ?_
    simp only [keywordStatement, Token.text_of_is isWhile]
    apply Halts.token (expect_yields isWhile)
    apply Halts.after (condition_yields expression tested)
    exact unended.bind
  | doWhile isDo =>
    refine Halts.keyword isDo ?_
    simp only [keywordStatement, Token.text_of_is isDo]
    apply Halts.token (expect_yields isDo)
    exact unended.bind
  | function isFunction named items =>
    refine Halts.keyword isFunction ?_
    simp only [keywordStatement, Token.text_of_is isFunction]
    apply Halts.token (expect_yields isFunction)
    apply Halts.token (expectName_yields named)
    apply Halts.after (parameters_yields items)
    exact unended.bind
  | animate isAnimate opensList left isComma right closes =>
    simp only [List.cons_append, List.append_assoc, List.nil_append]
    refine Halts.keyword isAnimate ?_
    simp only [keywordStatement, Token.text_of_is isAnimate]
    apply Halts.token (expect_yields isAnimate)
    apply Halts.token (expect_yields opensList)
    apply Halts.after (expression _ _ _ left (.of_is isComma (by decide) _))
    apply Halts.token (expect_yields isComma)
    apply Halts.after (expression _ _ _ right (.of_is closes (by decide) _))
    apply Halts.token (expect_yields closes)
    exact unended.bind

end

section

variable {room : Nat} (owner : Owner) {blamed : Owner} {tokens outer item : List Token}
  {values : List Statement}

theorem statementsThroughBrace_unended (done : Sequence (StatementWithin room) tokens values)
    (bound : List Token) (enough : tokens.length ≤ bound.length) :
    Halts (statementsThroughBrace owner (statement room) bound) tokens owner := by
  intro s unlimited front
  have noElse : ¬Begins (·.is .keyword "else") [] := by rintro ⟨_, _, ⟨⟩, -⟩
  obtain ⟨t, remaining, walks, left, -, run⟩ :=
    statementsThroughBrace_continue (statement_covers room) (fun _ _ => StatementWithin.begins)
      owner done noElse s (by rw [front, List.append_nil]) (.of_unlimited unlimited 0) bound
      (by rwa [front])
  have missed : (statementsThroughBrace owner (statement room) remaining).run t =
      .error (.halted ⟨owner.line, .unclosed owner.construct owner.line⟩) t := by
    cases remaining with
    | nil => rfl
    | cons _ remaining =>
      have unseen : ¬t.sees .delimiter "\x7d" := by simp [State.sees, left]
      rw [statementsThroughBrace, EStateM.run_bind, run_takes, if_neg unseen]
      simp only [Bool.false_eq_true, if_false, EStateM.run_bind, run_atEnd, left, List.isEmpty_nil,
        if_true]
      rfl
  refine ⟨t, ?_, walks.silent⟩
  rw [run, EStateM.run_bind, missed]

theorem statementsThroughBrace_halts (done : Sequence (StatementWithin room) outer values)
    (begins : Begins StartsStatement item) (unended : Halts (statement room) item blamed)
    (bound : List Token) (enough : (outer ++ item).length ≤ bound.length) :
    Halts (statementsThroughBrace owner (statement room) bound) (outer ++ item) blamed := by
  intro s unlimited front
  have noElse : ¬Begins (·.is .keyword "else") item := by
    simpa using StartsStatement.noElse begins []
  obtain ⟨t, remaining, walks, left, more, run⟩ :=
    statementsThroughBrace_continue (statement_covers room) (fun _ _ => StatementWithin.begins)
      owner done noElse s front (.of_unlimited unlimited 0) bound (by rwa [front])
  obtain ⟨u, halted, silent⟩ := unended.attempt t.count (walks.limit.trans unlimited) left
  refine ⟨u, ?_, silent.trans walks.silent⟩
  obtain ⟨first, others, rfl, starts⟩ := begins
  cases remaining with
  | nil => simp at more
  | cons _ remaining =>
    have unseen : ¬t.sees .delimiter "\x7d" := by simpa [State.sees, left] using starts.2
    have present : t.rest.isEmpty = false := by rw [left]; rfl
    have within : t.limit.any (· < t.steps + 1) = false := by simp [walks.limit.trans unlimited]
    have halted : (attempt (statement room)).run { t with steps := t.steps + 1 } = _ := halted
    rw [run, EStateM.run_bind, statementsThroughBrace, EStateM.run_bind, run_takes, if_neg unseen]
    simp only [Bool.false_eq_true, if_false, EStateM.run_bind, run_atEnd, present, run_tick, within,
      halted]

theorem block_halts {brace : Token} (opens : brace.is .delimiter "\x7b")
    (unended : ∀ bound : List Token, tokens.length ≤ bound.length →
      Halts (statementsThroughBrace owner (statement room) bound) tokens blamed) :
    Halts (block (room + 1) owner) (brace :: tokens) blamed := by
  apply Halts.token (expect_yields opens)
  refine Halts.get fun s front => ?_
  exact (unended s.rest (Nat.le_of_eq (by rw [front]))).bind

end

theorem Heads.statement_halts {room : Nat} {pre hole : List Token} {brace : Token}
    {owner blamed : Owner} (heads : Heads (Expression room) (BlockWithin room) pre brace owner)
    (opens : brace.is .delimiter "\x7b")
    (unended : Halts (Grammar.block room owner) (brace :: hole) blamed) :
    Halts (statement room) (pre ++ brace :: hole) blamed :=
  heads.halts (expression_covers room) (fun _ _ => Expression.begins) (block_covers room) opens
    unended

/-- Between the tokens `read` and `unread` of a list of statements some block is open, and the place
is behind its brace or behind one of its statements. In front of the outermost such block stand the
statements `kept`; the innermost one belongs to the owner. -/
inductive Open : (room : Nat) → (read unread : List Token) → (whole kept : List Statement) →
    Owner → Prop
  | here {room : Nat} {outer pre read unread post others : List Token} {brace closing : Token}
      {kept back done left : List Statement} {shape : Block Statement → Statement} {owner : Owner}
      (first : Sequence (StatementWithin (room + 1)) outer kept)
      (around : Around (Expression (room + 1)) (BlockWithin (room + 1)) pre post shape)
      (heads : Heads (Expression (room + 1)) (BlockWithin (room + 1)) pre brace owner)
      (opens : brace.is .delimiter "\x7b") (before : Sequence (StatementWithin room) read done)
      (behind : Sequence (StatementWithin room) unread left) (closes : closing.is .delimiter "\x7d")
      (later : Sequence (StatementWithin (room + 1)) others back) :
      Open (room + 1) (outer ++ (pre ++ brace :: read)) (unread ++ closing :: (post ++ others))
        (kept ++ shape ⟨done ++ left, brace.line⟩ :: back) kept owner
  | deeper {room : Nat} {outer pre read unread post others : List Token} {brace closing : Token}
      {kept back whole inside : List Statement} {shape : Block Statement → Statement}
      {owner : Owner} (first : Sequence (StatementWithin (room + 1)) outer kept)
      (around : Around (Expression (room + 1)) (BlockWithin (room + 1)) pre post shape)
      (opens : brace.is .delimiter "\x7b") (inner : Open room read unread whole inside owner)
      (closes : closing.is .delimiter "\x7d")
      (later : Sequence (StatementWithin (room + 1)) others back) :
      Open (room + 1) (outer ++ (pre ++ brace :: read)) (unread ++ closing :: (post ++ others))
        (kept ++ shape ⟨whole, brace.line⟩ :: back) kept owner

theorem AroundIf.heads {phrase : Spelling Expr} {braces : Spelling (Block Statement)}
    {pre post : List Token} {shape : Block Statement → Statement}
    (around : AroundIf phrase braces pre post shape) :
    ∃ owner, HeadsIf phrase braces pre owner := by
  induction around with
  | plain isIf tested | otherwise isIf tested | elseIf isIf tested =>
    exact ⟨_, .first isIf tested⟩
  | elseBlock isIf tested first isElse => exact ⟨_, .second isIf tested first isElse⟩
  | link isIf tested first isElse _ ih =>
    obtain ⟨owner, inner⟩ := ih
    exact ⟨owner, .link isIf tested first isElse inner⟩

theorem Around.heads {phrase : Spelling Expr} {braces : Spelling (Block Statement)}
    {pre post : List Token} {shape : Block Statement → Statement}
    (around : Around phrase braces pre post shape) (brace : Token) :
    ∃ owner, Heads phrase braces pre brace owner := by
  cases around with
  | block => exact ⟨_, .block⟩
  | ifElse chain =>
    obtain ⟨owner, heads⟩ := chain.heads
    exact ⟨owner, .ifElse heads⟩
  | forLoop isFor opens starts stops tested stopsAgain stepped closes =>
    exact ⟨_, .forLoop isFor opens starts stops tested stopsAgain stepped closes⟩
  | whileLoop isWhile tested => exact ⟨_, .whileLoop isWhile tested⟩
  | doWhile isDo => exact ⟨_, .doWhile isDo⟩
  | function isFunction named items => exact ⟨_, .function isFunction named items⟩
  | animate isAnimate opens left isComma right closes =>
    exact ⟨_, .animate isAnimate opens left isComma right closes⟩

theorem Around.begins {room : Nat} {pre post : List Token} {shape : Block Statement → Statement}
    (around : Around (Expression (room + 1)) (BlockWithin (room + 1)) pre post shape)
    {brace : Token} (opens : brace.is .delimiter "\x7b") (more : List Token) :
    Begins StartsStatement (pre ++ brace :: more) := by
  -- It begins as it does with an empty block.
  have empty : StatementWithin (room + 1) _ _ :=
    around.fill (Braced.braces opens .nil (Token.is_ofLexeme .delimiter "\x7d" 1))
  have begins : Begins StartsStatement ((pre ++ [brace]) ++
      (.ofLexeme .delimiter "\x7d" 1 :: post)) := by
    simpa using empty.begins
  simpa using (begins.of_append (by simp)).append more

namespace Open

variable {room : Nat} {read unread : List Token} {whole kept : List Statement} {owner : Owner}

theorem spelled (place : Open room read unread whole kept owner) :
    Sequence (StatementWithin room) (read ++ unread) whole := by
  induction place with
  | here first around _ opens before behind closes later =>
    have filled := around.fill (Braced.braces opens (before.append behind) closes)
    simpa using first.append (.cons filled later)
  | deeper first around opens _ closes later ih =>
    have filled := around.fill (Braced.braces opens ih closes)
    simpa using first.append (.cons filled later)

theorem halts (place : Open room read unread whole kept owner) :
    ∃ outer item, read = outer ++ item ∧ Sequence (StatementWithin room) outer kept ∧
      Begins StartsStatement item ∧ Halts (statement room) item owner := by
  induction place with
  | here first around heads opens before _ _ _ =>
    refine ⟨_, _, rfl, first, around.begins opens _, heads.statement_halts opens ?_⟩
    exact block_halts _ opens (statementsThroughBrace_unended _ before)
  | @deeper room _ _ _ _ _ _ brace _ _ _ _ _ _ _ first around opens _ _ _ ih =>
    obtain ⟨outer, item, rfl, done, begins, stuck⟩ := ih
    obtain ⟨enclosing, heads⟩ := around.heads brace
    refine ⟨_, _, rfl, first, around.begins opens _, heads.statement_halts opens ?_⟩
    exact block_halts enclosing opens (statementsThroughBrace_halts enclosing done begins stuck)

theorem parse (place : Open maxNesting read unread whole kept owner) :
    DrawScript.parse read = ⟨kept, [⟨owner.line, .unclosed owner.construct owner.line⟩]⟩ := by
  have same : parseWithin none read = DrawScript.parse read := parseWithin_eq_parse (by simp)
  obtain ⟨outer, item, rfl, first, begins, stuck⟩ := place.halts
  obtain ⟨t, remaining, walks, left, enough, run⟩ :=
    statements_continue first (by simpa using StartsStatement.noElse begins [])
      { rest := outer ++ item, limit := none } rfl (.of_unlimited rfl 0) _ (Nat.le_refl _)
  have unlimited : t.limit = none := walks.limit
  obtain ⟨u, halted, silent⟩ := stuck.attempt t.count unlimited left
  obtain ⟨token, more, rfl, -⟩ := begins
  cases remaining with
  | nil => simp at enough
  | cons _ remaining =>
    have reported : u.reported = [] := silent.trans walks.silent
    rw [← same, parseWithin, run, EStateM.run_bind,
      run_statements _ _ (by simp [left]) (by simp [unlimited]), halted]
    simp [State.report, reported, Failure.error]

end Open

theorem Occurs.ends {room : Nat} {before own after : List Token} {whole less : List Statement}
    {s : Statement} (occurs : Occurs room before own after whole less s) :
    (∃ done left, Sequence (StatementWithin room) (before ++ own) (done ++ [s]) ∧
      Sequence (StatementWithin room) after left ∧ whole = done ++ s :: left) ∨
    ∃ kept owner, Open room (before ++ own) after whole kept owner := by
  induction occurs with
  | @here room before own after front back s first spelled later =>
    refine .inl ⟨front, back, ?_, later, rfl⟩
    simpa using first.append (.cons spelled .nil)
  | @inside room before own after outer pre post others opening closing front back whole less shape
      s first around opens inner closes later ih =>
    refine .inr ⟨front, ?_⟩
    obtain ⟨_, _, read, unread, rfl⟩ | ⟨_, owner, inner⟩ := ih
    next =>
      obtain ⟨owner, heads⟩ := around.heads opening
      have place := Open.here first around heads opens read unread closes later
      exact ⟨owner, by simpa using place⟩
    next =>
      have place := Open.deeper first around opens inner closes later
      exact ⟨owner, by simpa using place⟩

theorem Sequence.opened {room : Nat} {tokens before after : List Token} {brace : Token}
    {values : List Statement} (spelled : Sequence (StatementWithin room) tokens values)
    (opens : brace.is .delimiter "\x7b") (split : before ++ brace :: after = tokens) :
    ∃ kept owner, Open room (before ++ [brace]) after values kept owner := by
  induction room using Nat.strongRecOn generalizing tokens before after values with
  | ind room ih =>
    obtain ⟨outer, front, inner, s, more, others, back, first, here, later, rfl, rfl, rfl⟩ :=
      spelled.item split
    have place := here.stopIn (fun _ _ => Expression.unbroken) ⟨_, by simp, opens⟩ rfl
    cases place with
    | last stops => simp [Token.is_of_is opens] at stops
    | header stops => simp [Token.is_of_is opens] at stops
    | inner inBlock =>
      cases inBlock with
      | intro placed braced =>
        refine ⟨front, ?_⟩
        cases room with
        | zero => exact braced.elim
        | succ room =>
          -- The brace is the one that opens the block, or it is in one of the statements there.
          cases Braced.inBraces braced (by simp [Token.is_of_is opens]) rfl with
          | opening _ inside closes =>
            obtain ⟨owner, heads⟩ := placed.heads brace
            have place := Open.here first placed heads opens .nil inside closes later
            exact ⟨owner, by simpa using place⟩
          | inside opensOuter sequence closes =>
            obtain ⟨_, owner, inner⟩ := ih room (Nat.lt_succ_self room) sequence rfl
            have place := Open.deeper first placed opensOuter inner closes later
            exact ⟨owner, by simpa using place⟩

end DrawScript.Grammar
