import DrawScript.Proofs.Grammar.Completeness.Expression

set_option autoImplicit false

namespace DrawScript.Grammar

section

variable {phrase : Spelling Expr} {braces : Spelling (Block Statement)} {p : Parser Expr}
  {body : BlockParser}

theorem annotation_yields {types : List Token} {e : Expr} {type : Option String}
    (typed : TypeOf types e type) {sign : Token} (isSign : sign.is .assign "=")
    {more : List Token} :
    ∃ written, Yields annotation types written (sign :: more) ∧
      (written <|> literalType? e) = type := by
  have absent : Yields annotation [] none (sign :: more) := by
    refine Yields.look (takes_passed ?_) .pure
    rintro ⟨_, _, ⟨⟩, isColon⟩
    simp [Token.is_of_is isSign] at isColon
  cases typed with
  | written isColon named =>
    refine ⟨some _, ?_, rfl⟩
    apply Yields.token (takes_yields isColon)
    exact Yields.finish (expectName_yields named) .pure
  | int | float | bool => exact ⟨none, absent, rfl⟩
  | untyped noNumber noBoolean =>
    refine ⟨none, absent, ?_⟩
    cases e with
    | number n => exact absurd rfl (noNumber n)
    | boolean b => exact absurd rfl (noBoolean b)
    | _ => rfl

theorem varDeclaration_yields {follow : List Token → Prop} (expression : Covers phrase follow p)
    {tokens rest : List Token} {s : Statement} (declared : VarDeclaration phrase tokens s)
    (followed : follow rest) :
    ∃ name, (∃ type initial line, s = .var name type initial line) ∧
      Yields (varDeclaration p) tokens (name, s) rest := by
  cases declared with
  | @declare keyword name sign types values type initial isVar named typed isSign value =>
    obtain ⟨written, read, rfl⟩ := annotation_yields typed isSign
    refine ⟨name.text, ⟨_, _, _, rfl⟩, ?_⟩
    simp only [List.cons_append]
    apply Yields.token (expect_yields isVar)
    apply Yields.token (expectName_yields named)
    apply Yields.bind read
    have initialSign : Yields (expectInitial name.text) [sign] () (values ++ rest) :=
      Yields.finish (takes_yields isSign) .pure
    apply Yields.token initialSign
    exact Yields.finish (expression _ _ _ value followed) .pure

theorem condition_yields (expression : Covers phrase Closed p) {tokens rest : List Token} {e : Expr}
    (spelled : Condition phrase tokens e) : Yields (condition p) tokens e rest := by
  cases spelled with
  | parenthesis opens inner closes =>
    apply Yields.token (expect_yields opens)
    apply Yields.bind (expression _ _ _ inner (.of_is closes (by decide) _))
    exact Yields.token (expect_yields closes) .pure

theorem parameters_yields {tokens rest : List Token} {parameters : List String}
    (items : Parenthesized Identifier tokens parameters) :
    Yields (parenthesized (expectName .parameter)) tokens parameters rest :=
  parenthesized_yields (expectName_covers _ _) (fun _ _ => Identifier.begins) items

def elsePart (p : Parser Expr) (body : BlockParser) (bound : List Token) (test : Expr)
    (thenBlock : Block Statement) (line : Nat) : Parser Statement := do
  let elseLine ← currentLine
  if ← takes .keyword "else" then
    if ← sees .keyword "if" then
      let nested ← ifStatement p body bound
      return .ifElse test thenBlock (some ⟨[nested], elseLine⟩) line
    else return .ifElse test thenBlock (some (← body ⟨.ifElse, line⟩)) line
  else return .ifElse test thenBlock none line

theorem ifStatement_cons (token : Token) (bound : List Token) :
    ifStatement p body (token :: bound) = (do
      let line ← expect .keyword "if"
      let test ← condition p
      let thenBlock ← body ⟨.ifElse, line⟩
      elsePart p body bound test thenBlock line) := rfl

section ElsePart

variable {bound : List Token} {test : Expr} {thenBlock : Block Statement} {line : Nat}
  {separator : Token} {others rest : List Token}

theorem elsePart_absent (noElse : ¬Begins (·.is .keyword "else") rest) :
    Yields (elsePart p body bound test thenBlock line) [] (.ifElse test thenBlock none line)
      rest := by
  refine Yields.currentLine fun _ => ?_
  exact Yields.look (takes_passed noElse) .pure

theorem elsePart_block (block : ∀ owner, Covers braces (fun _ => True) (body owner))
    (opens : ∀ tokens b, braces tokens b → Begins (·.is .delimiter "\x7b") tokens)
    (isElse : separator.is .keyword "else") {elseBlock : Block Statement}
    (second : braces others elseBlock) :
    Yields (elsePart p body bound test thenBlock line) (separator :: others)
      (.ifElse test thenBlock (some elseBlock) line) rest := by
  apply Yields.look (currentLine_yields rfl)
  apply Yields.token (takes_yields isElse)
  obtain ⟨opening, more, rfl, isOpening⟩ := opens _ _ second
  apply Yields.look (sees_yields _ _)
  simp only [List.cons_append, List.head?_cons, Option.any_some, Token.is_of_is isOpening]
  exact Yields.finish (block _ _ _ _ second trivial) .pure

theorem elsePart_link (isElse : separator.is .keyword "else") {link : Statement}
    (isIf : Begins (·.is .keyword "if") others)
    (linked : Yields (ifStatement p body bound) others link rest) :
    Yields (elsePart p body bound test thenBlock line) (separator :: others)
      (.ifElse test thenBlock (some ⟨[link], separator.line⟩) line) rest := by
  apply Yields.look (currentLine_yields rfl)
  apply Yields.token (takes_yields isElse)
  obtain ⟨keyword, more, rfl, isKeyword⟩ := isIf
  apply Yields.look (sees_yields _ _)
  simp only [List.cons_append, List.head?_cons, Option.any_some, isKeyword, if_true]
  exact Yields.finish linked .pure

end ElsePart

theorem IfElse.begins {tokens : List Token} {s : Statement}
    (spelled : IfElse phrase braces tokens s) : Begins (·.is .keyword "if") tokens := by
  cases spelled with
  | plain isIf | otherwise isIf | elseIf isIf => exact ⟨_, _, rfl, isIf⟩

theorem ifStatement_yields (expression : Covers phrase Closed p)
    (block : ∀ owner, Covers braces (fun _ => True) (body owner))
    (opens : ∀ tokens b, braces tokens b → Begins (·.is .delimiter "\x7b") tokens)
    {tokens : List Token} {s : Statement} (spelled : IfElse phrase braces tokens s)
    {rest : List Token} (noElse : ¬Begins (·.is .keyword "else") rest) (bound : List Token)
    (enough : (tokens ++ rest).length ≤ bound.length) :
    Yields (ifStatement p body bound) tokens s rest := by
  induction spelled generalizing bound with
  | plain isIf tested first =>
    cases bound with
    | nil => simp at enough
    | cons _ bound =>
      rw [ifStatement_cons]
      apply Yields.token (expect_yields isIf)
      apply Yields.bind (condition_yields expression tested)
      exact Yields.finish (block _ _ _ _ first trivial) (elsePart_absent noElse)
  | otherwise isIf tested first isElse second =>
    cases bound with
    | nil => simp at enough
    | cons _ bound =>
      rw [ifStatement_cons]
      simp only [List.cons_append, List.append_assoc]
      apply Yields.token (expect_yields isIf)
      apply Yields.bind (condition_yields expression tested)
      exact Yields.bind (block _ _ _ _ first trivial) (elsePart_block block opens isElse second)
  | elseIf isIf tested first isElse second ih =>
    cases bound with
    | nil => simp at enough
    | cons _ bound =>
      rw [ifStatement_cons]
      simp only [List.cons_append, List.append_assoc]
      apply Yields.token (expect_yields isIf)
      apply Yields.bind (condition_yields expression tested)
      refine Yields.bind (block _ _ _ _ first trivial)
        (elsePart_link isElse second.begins (ih bound ?_))
      simp only [List.length_append, List.length_cons] at enough ⊢
      omega

theorem optional_present {follow : List Token → Prop} (expression : Covers phrase follow p)
    (begins : ∀ tokens e, phrase tokens e → Begins StartsOperand tokens) {stop : String}
    (noOpening : stop ≠ "(") {tokens rest : List Token} {e : Expr} (present : phrase tokens e)
    (followed : follow rest) : Yields (optional p stop) tokens (some e) rest := by
  have read := expression _ _ _ present followed
  obtain ⟨first, others, rfl, starts⟩ := begins _ _ present
  have other : first.is .delimiter stop = false := starts.noDelimiter noOpening
  apply Yields.look (sees_yields _ _)
  simp only [List.cons_append, List.head?_cons, Option.any_some, other, Bool.false_eq_true,
    if_false]
  exact Yields.finish read .pure

theorem optional_covers (expression : Covers phrase Closed p)
    (begins : ∀ tokens e, phrase tokens e → Begins StartsOperand tokens) {stop : String}
    (noOpening : stop ≠ "(") :
    Covers (Optional phrase) (Begins (·.is .delimiter stop)) (optional p stop) := by
  rintro tokens e rest spelled ⟨ending, more, rfl, stops⟩
  cases spelled with
  | none =>
    apply Yields.look (sees_yields _ _)
    simp only [List.nil_append, List.head?_cons, Option.any_some, stops, if_true]
    exact .pure
  | some present =>
    exact optional_present expression begins noOpening present (.of_is stops noOpening _)

theorem forInitial_covers (expression : Covers phrase Closed p)
    (begins : ∀ tokens e, phrase tokens e → Begins StartsOperand tokens) :
    Covers (ForInitial phrase) (Begins (·.is .delimiter ";")) (forInitial p) := by
  rintro tokens initial rest spelled ⟨stop, more, rfl, stops⟩
  have closed : Closed (stop :: more) := .of_is stops (by decide) _
  apply Yields.look (sees_yields _ _)
  cases spelled with
  | none =>
    simp only [List.nil_append, List.head?_cons, Option.any_some, stops, if_true]
    exact .pure
  | var declared =>
    obtain ⟨name, -, read⟩ := varDeclaration_yields expression declared closed
    cases declared with
    | declare isVar =>
      simp only [List.cons_append, List.head?_cons, Option.any_some, Token.is_of_is isVar]
      apply Yields.look (sees_yields _ _)
      simp only [List.cons_append, List.head?_cons, Option.any_some, isVar, if_true]
      exact Yields.finish read .pure
  | @expression first others e plain =>
    obtain ⟨_, _, ⟨⟩, starts⟩ := begins _ _ plain
    have noStop : first.is .delimiter ";" = false := starts.noDelimiter (by decide)
    simp only [List.cons_append, List.head?_cons, Option.any_some, noStop, Bool.false_eq_true,
      if_false]
    apply Yields.look (sees_yields _ _)
    simp only [List.cons_append, List.head?_cons, Option.any_some, starts.noKeyword,
      Bool.false_eq_true, if_false]
    apply Yields.look (currentLine_yields rfl)
    exact Yields.finish (expression _ _ _ plain closed) .pure

-- The parts of each form are read wherever they stand, so a form only puts them in order.
section Forms

variable {keyword name sign again opening comma point separator stop second closing : Token}
  {tokens others bodies rest : List Token} {b : Block Statement} {arguments : List Expr}
  {e f : Expr} {value increment : Option Expr}
  (expression : Covers phrase Closed p)
  (begins : ∀ tokens e, phrase tokens e → Begins StartsOperand tokens)
  (block : ∀ owner, Covers braces (fun _ => True) (body owner))

include expression

theorem varStatement_yields {s : Statement} (declared : VarDeclaration phrase tokens s)
    (stops : stop.is .delimiter ";") : Yields (varStatement p) (tokens ++ [stop]) s rest := by
  have closed : Closed ([stop] ++ rest) := .of_is stops (by decide) _
  obtain ⟨_, -, read⟩ := varDeclaration_yields expression declared closed
  apply Yields.bind read
  exact Yields.token (expectSemicolon_yields stops) .pure

include begins

theorem cursorStatement_yields (isCursor : keyword.is .keyword "Cursor")
    (named : name.kind = .identifier) (isSign : sign.is .assign "=")
    (isAgain : again.is .keyword "Cursor") (items : Parenthesized phrase tokens arguments)
    (stops : stop.is .delimiter ";") :
    Yields (cursorStatement p) (keyword :: name :: sign :: again :: tokens ++ [stop])
      (.cursor name.text arguments keyword.line) rest := by
  apply Yields.token (expect_yields isCursor)
  apply Yields.token (expectName_yields named)
  apply Yields.token (expect_yields isSign)
  apply Yields.token (expect_yields isAgain)
  apply Yields.bind (parenthesized_yields expression begins items)
  exact Yields.token (expectSemicolon_yields stops) .pure

theorem returnStatement_yields (isReturn : keyword.is .keyword "return")
    (result : Optional phrase tokens value) (stops : stop.is .delimiter ";") :
    Yields (returnStatement p) (keyword :: tokens ++ [stop]) (.returnValue value keyword.line)
      rest := by
  apply Yields.token (expect_yields isReturn)
  refine Yields.bind (optional_covers expression begins (by decide) _ _ _ result ?_) ?_
  next => exact ⟨stop, _, rfl, stops⟩
  next => exact Yields.token (expectSemicolon_yields stops) .pure

theorem copyArguments_yields {line : Nat} {side : CopyEnd}
    (items : Parenthesized phrase tokens arguments) (counted : arguments.length = side.arity) :
    Yields (copyArguments p line side) tokens arguments rest := by
  apply Yields.finish (parenthesized_yields expression begins items)
  simp only [counted, if_true]
  exact .pure

theorem copyStatement_yields {destination : List Expr} (isCopy : keyword.is .keyword "copy")
    (taken : Parenthesized phrase tokens arguments) (four : arguments.length = 4)
    (isTo : separator.is .keyword "to") (put : Parenthesized phrase others destination)
    (two : destination.length = 2) (stops : stop.is .delimiter ";") :
    Yields (copyStatement p) (keyword :: tokens ++ separator :: others ++ [stop])
      (.copy arguments destination keyword.line) rest := by
  simp only [List.cons_append, List.append_assoc]
  apply Yields.token (expect_yields isCopy)
  refine Yields.bind (copyArguments_yields expression begins taken four) ?_
  apply Yields.token (expect_yields isTo)
  refine Yields.bind (copyArguments_yields expression begins put two) ?_
  exact Yields.token (expectSemicolon_yields stops) .pure

theorem methodStatement_yields (isCursor : keyword.kind = .identifier)
    (isPoint : point.is .access ".") (named : name.kind = .identifier)
    (items : Parenthesized phrase tokens arguments) (stops : stop.is .delimiter ";") :
    Yields (methodStatement p) (keyword :: point :: name :: tokens ++ [stop])
      (.method keyword.text name.text arguments keyword.line) rest := by
  apply Yields.look (currentLine_yields rfl)
  apply Yields.token (expectName_yields isCursor)
  apply Yields.token (expect_yields isPoint)
  apply Yields.token (expectName_yields named)
  apply Yields.bind (parenthesized_yields expression begins items)
  exact Yields.token (expectSemicolon_yields stops) .pure

include block

theorem forStatement_yields {increments : List Token} {initial : Option Statement}
    (isFor : keyword.is .keyword "for")
    (opens : opening.is .delimiter "(") (starts : ForInitial phrase tokens initial)
    (stops : stop.is .delimiter ";") (tested : Optional phrase others value)
    (stopsAgain : second.is .delimiter ";") (stepped : Optional phrase increments increment)
    (closes : closing.is .delimiter ")") (repeated : braces bodies b) :
    Yields (forStatement p body)
      (keyword :: opening :: tokens ++ stop :: others ++ second :: increments ++ closing :: bodies)
      (.forLoop initial value increment b keyword.line) rest := by
  simp only [List.cons_append, List.append_assoc]
  apply Yields.token (expect_yields isFor)
  apply Yields.token (expect_yields opens)
  apply Yields.bind (forInitial_covers expression begins _ _ _ starts ⟨stop, _, rfl, stops⟩)
  apply Yields.token (expect_yields stops)
  refine Yields.bind (optional_covers expression begins (by decide) _ _ _ tested
    ⟨second, _, rfl, stopsAgain⟩) ?_
  apply Yields.token (expect_yields stopsAgain)
  refine Yields.bind (optional_covers expression begins (by decide) _ _ _ stepped
    ⟨closing, _, rfl, closes⟩) ?_
  apply Yields.token (expect_yields closes)
  exact Yields.finish (block _ _ _ _ repeated trivial) .pure

omit begins

theorem whileStatement_yields (isWhile : keyword.is .keyword "while")
    (tested : Condition phrase tokens e) (repeated : braces bodies b) :
    Yields (whileStatement p body) (keyword :: tokens ++ bodies) (.whileLoop e b keyword.line)
      rest := by
  apply Yields.token (expect_yields isWhile)
  apply Yields.bind (condition_yields expression tested)
  exact Yields.finish (block _ _ _ _ repeated trivial) .pure

theorem doStatement_yields (isDo : keyword.is .keyword "do") (repeated : braces bodies b)
    (isWhile : separator.is .keyword "while") (tested : Condition phrase tokens e)
    (stops : stop.is .delimiter ";") :
    Yields (doStatement p body) (keyword :: bodies ++ separator :: tokens ++ [stop])
      (.doWhile b e keyword.line) rest := by
  simp only [List.cons_append, List.append_assoc]
  apply Yields.token (expect_yields isDo)
  apply Yields.bind (block _ _ _ _ repeated trivial)
  apply Yields.token (expect_yields isWhile)
  apply Yields.bind (condition_yields expression tested)
  exact Yields.token (expectSemicolon_yields stops) .pure

theorem animateStatement_yields (isAnimate : keyword.is .keyword "animate")
    (opens : opening.is .delimiter "(") (left : phrase tokens e)
    (isComma : comma.is .delimiter ",") (right : phrase others f)
    (closes : closing.is .delimiter ")") (repeated : braces bodies b) :
    Yields (animateStatement p body)
      (keyword :: opening :: tokens ++ comma :: others ++ closing :: bodies)
      (.animate e f b keyword.line) rest := by
  simp only [List.cons_append, List.append_assoc]
  apply Yields.token (expect_yields isAnimate)
  apply Yields.token (expect_yields opens)
  apply Yields.bind (expression _ _ _ left (.of_is isComma (by decide) _))
  apply Yields.token (expect_yields isComma)
  apply Yields.bind (expression _ _ _ right (.of_is closes (by decide) _))
  apply Yields.token (expect_yields closes)
  exact Yields.finish (block _ _ _ _ repeated trivial) .pure

omit expression

theorem functionStatement_yields {parameters : List String}
    (isFunction : keyword.is .keyword "function") (named : name.kind = .identifier)
    (items : Parenthesized Identifier tokens parameters) (run : braces bodies b) :
    Yields (functionStatement body) (keyword :: name :: tokens ++ bodies)
      (.function name.text parameters b keyword.line) rest := by
  apply Yields.token (expect_yields isFunction)
  apply Yields.token (expectName_yields named)
  apply Yields.bind (parameters_yields items)
  exact Yields.finish (block _ _ _ _ run trivial) .pure

end Forms

theorem run_statementOf_keyword {token : Token} {text : String} {more : List Token} {s : State}
    (front : s.rest = token :: more) (isKeyword : token.is .keyword text) :
    (statementOf p body).run s = (keywordStatement p body token).run s := by
  rw [statementOf, EStateM.run_bind, EStateM.run_get]
  simp only [front, (Token.is_iff.mp isKeyword).1, if_true]

theorem run_statementOf_simple {first : Token} {more : List Token} {s : State}
    (front : s.rest = first :: more) (noKeyword : first.kind ≠ .keyword)
    (noStop : first.is .delimiter ";" = false) (noBrace : first.is .delimiter "\x7b" = false) :
    (statementOf p body).run s =
      (if startsMethod (first :: more) then methodStatement p
        else expressionStatement p).run s := by
  have unseen : s.sees .delimiter ";" = false := by simpa [State.sees, front] using noStop
  rw [statementOf, EStateM.run_bind, EStateM.run_get]
  simp only [front, noKeyword, if_false, EStateM.run_bind, run_takes, unseen, noBrace,
    Bool.false_eq_true]

theorem run_statementOf_block {opening : Token} {more : List Token} {s : State}
    (front : s.rest = opening :: more) (opens : opening.is .delimiter "\x7b") :
    (statementOf p body).run s =
      (do return Statement.block (← body ⟨.block, opening.line⟩)).run s := by
  have unseen : s.sees .delimiter ";" = false := by simp [State.sees, front, Token.is_of_is opens]
  rw [statementOf, EStateM.run_bind, EStateM.run_get]
  simp only [front, (Token.is_iff.mp opens).1, reduceCtorEq, if_false, EStateM.run_bind, run_takes,
    unseen, opens, Bool.false_eq_true, if_true]

theorem startsMethod_eq_false {first : Token} {tokens : List Token}
    (noPoint : ∀ second ∈ tokens.head?, second.kind ≠ .access) :
    startsMethod (first :: tokens) = false := by
  rcases tokens with _ | ⟨second, _ | ⟨_, _ | ⟨_, _⟩⟩⟩
  next => rfl
  next => rfl
  next => rfl
  next => simp [startsMethod, noPoint second rfl]

theorem startsMethod_eq_true {cursor point name : Token} {tokens : List Token}
    {arguments : List Expr} (isCursor : cursor.kind = .identifier) (isPoint : point.is .access ".")
    (named : name.kind = .identifier) (items : Parenthesized phrase tokens arguments)
    (more : List Token) : startsMethod (cursor :: point :: name :: (tokens ++ more)) = true := by
  cases items with
  | none opens | some opens =>
    simp [startsMethod, isCursor, (Token.is_iff.mp isPoint).1, named, opens]

theorem Yields.of_run {α : Type} {p q : Parser α} {tokens rest : List Token} {value : α}
    (yields : Yields q tokens value rest)
    (same : ∀ s : State, s.rest = tokens ++ rest → p.run s = q.run s) :
    Yields p tokens value rest := by
  intro s front ample
  rw [same s front]
  exact yields s front ample

theorem statementOf_keyword {token : Token} {text : String} {more rest : List Token}
    {s : Statement} (isKeyword : token.is .keyword text)
    (yields : Yields (keywordStatement p body token) (token :: more) s rest) :
    Yields (statementOf p body) (token :: more) s rest :=
  yields.of_run fun _ front => run_statementOf_keyword front isKeyword

theorem statementOf_expression (expression : Covers phrase Closed p)
    (begins : ∀ tokens e, phrase tokens e → Begins StartsOperand tokens)
    (unbroken : ∀ tokens e, phrase tokens e → Unbroken tokens) {first stop : Token}
    {tokens rest : List Token} {e : Expr} (plain : phrase (first :: tokens) e)
    (stops : stop.is .delimiter ";") :
    Yields (statementOf p body) (first :: tokens ++ [stop]) (.expression e first.line) rest := by
  obtain ⟨_, _, ⟨⟩, starts⟩ := begins _ _ plain
  have noMethod : startsMethod (first :: (tokens ++ [stop] ++ rest)) = false := by
    apply startsMethod_eq_false
    cases tokens with
    | nil => simp [(Token.is_iff.mp stops).1]
    | cons second more => simpa using (unbroken _ _ plain second (by simp)).1
  have read : Yields (expressionStatement p) (first :: tokens ++ [stop]) (.expression e first.line)
      rest := by
    apply Yields.look (currentLine_yields rfl)
    apply Yields.bind (expression _ _ _ plain (.of_is stops (by decide) _))
    exact Yields.token (expectSemicolon_yields stops) .pure
  refine read.of_run fun s front => ?_
  have front : s.rest = first :: (tokens ++ [stop] ++ rest) := front
  rw [run_statementOf_simple front starts.1 (starts.noDelimiter (by decide))
    (starts.noDelimiter (by decide)), noMethod]
  rfl

theorem statementOf_method (expression : Covers phrase Closed p)
    (begins : ∀ tokens e, phrase tokens e → Begins StartsOperand tokens)
    {cursor point name stop : Token} {tokens rest : List Token} {arguments : List Expr}
    (isCursor : cursor.kind = .identifier) (isPoint : point.is .access ".")
    (named : name.kind = .identifier) (items : Parenthesized phrase tokens arguments)
    (stops : stop.is .delimiter ";") :
    Yields (statementOf p body) (cursor :: point :: name :: tokens ++ [stop])
      (.method cursor.text name.text arguments cursor.line) rest := by
  have read : Yields (methodStatement p) (cursor :: point :: name :: tokens ++ [stop])
      (.method cursor.text name.text arguments cursor.line) rest :=
    methodStatement_yields expression begins isCursor isPoint named items stops
  refine read.of_run fun s front => ?_
  have front : s.rest = cursor :: point :: name :: (tokens ++ ([stop] ++ rest)) := by simp [front]
  rw [run_statementOf_simple front (by simp [isCursor]) (by simp [Token.is, isCursor])
    (by simp [Token.is, isCursor]), startsMethod_eq_true isCursor isPoint named items]
  rfl

theorem statementOf_block (block : ∀ owner, Covers braces (fun _ => True) (body owner))
    (opensBlock : ∀ tokens b, braces tokens b → Begins (·.is .delimiter "\x7b") tokens)
    {tokens rest : List Token} {b : Block Statement} (inner : braces tokens b) :
    Yields (statementOf p body) tokens (.block b) rest := by
  obtain ⟨opening, more, rfl, opens⟩ := opensBlock _ _ inner
  have read : Yields (do return Statement.block (← body ⟨.block, opening.line⟩)) (opening :: more)
      (.block b) rest := Yields.finish (block _ _ _ _ inner trivial) .pure
  exact read.of_run fun s front => run_statementOf_block front opens

theorem statementOf_empty {stop : Token} {rest : List Token} (stops : stop.is .delimiter ";") :
    Yields (statementOf p body) [stop] (.empty stop.line) rest := by
  refine Yields.get fun s front => ?_
  simp only [front, List.cons_append, (Token.is_iff.mp stops).1, reduceCtorEq, if_false]
  exact Yields.token (takes_yields stops) .pure

theorem Token.text_of_is {token : Token} {kind : Token.Kind} {text : String}
    (same : token.is kind text) : token.text = text := by
  simp [Token.text, (Token.is_iff.mp same).2, Token.Value.text]

theorem statementOf_covers (expression : Covers phrase Closed p)
    (begins : ∀ tokens e, phrase tokens e → Begins StartsOperand tokens)
    (unbroken : ∀ tokens e, phrase tokens e → Unbroken tokens)
    (block : ∀ owner, Covers braces (fun _ => True) (body owner))
    (opensBlock : ∀ tokens b, braces tokens b → Begins (·.is .delimiter "\x7b") tokens) :
    Covers (StatementForm phrase braces) (fun rest => ¬Begins (·.is .keyword "else") rest)
      (statementOf p body) := by
  intro tokens s rest spelled noElse
  cases spelled with
  | @var _ _ s declared stops =>
    have read : Yields (varStatement p) _ s rest := varStatement_yields expression declared stops
    cases declared with
    | declare isVar =>
      refine statementOf_keyword isVar ?_
      simp only [keywordStatement, Token.text_of_is isVar]
      exact read
  | cursor isCursor named isSign isAgain items stops =>
    refine statementOf_keyword isCursor ?_
    simp only [keywordStatement, Token.text_of_is isCursor]
    exact cursorStatement_yields expression begins isCursor named isSign isAgain items stops
  | ifElse chain =>
    have read (bound : List Token) (enough : (tokens ++ rest).length ≤ bound.length) :
        Yields (ifStatement p body bound) tokens s rest :=
      ifStatement_yields expression block opensBlock chain noElse bound enough
    cases chain with
    | plain isIf | otherwise isIf | elseIf isIf =>
      refine statementOf_keyword isIf ?_
      simp only [keywordStatement, Token.text_of_is isIf]
      exact Yields.get fun t front => read t.rest (Nat.le_of_eq (by rw [front]; rfl))
  | forLoop isFor opens starts stops tested stopsAgain stepped closes repeated =>
    refine statementOf_keyword isFor ?_
    simp only [keywordStatement, Token.text_of_is isFor]
    exact forStatement_yields expression begins block isFor opens starts stops tested stopsAgain
      stepped closes repeated
  | whileLoop isWhile tested repeated =>
    refine statementOf_keyword isWhile ?_
    simp only [keywordStatement, Token.text_of_is isWhile]
    exact whileStatement_yields expression block isWhile tested repeated
  | doWhile isDo repeated isWhile tested stops =>
    refine statementOf_keyword isDo ?_
    simp only [keywordStatement, Token.text_of_is isDo]
    exact doStatement_yields expression block isDo repeated isWhile tested stops
  | function isFunction named items run =>
    refine statementOf_keyword isFunction ?_
    simp only [keywordStatement, Token.text_of_is isFunction]
    exact functionStatement_yields block isFunction named items run
  | returnValue isReturn result stops =>
    refine statementOf_keyword isReturn ?_
    simp only [keywordStatement, Token.text_of_is isReturn]
    exact returnStatement_yields expression begins isReturn result stops
  | copy isCopy taken four isTo put two stops =>
    refine statementOf_keyword isCopy ?_
    simp only [keywordStatement, Token.text_of_is isCopy]
    exact copyStatement_yields expression begins isCopy taken four isTo put two stops
  | animate isAnimate opens left isComma right closes repeated =>
    refine statementOf_keyword isAnimate ?_
    simp only [keywordStatement, Token.text_of_is isAnimate]
    exact animateStatement_yields expression block isAnimate opens left isComma right closes
      repeated
  | method isCursor isPoint named items stops =>
    exact statementOf_method expression begins isCursor isPoint named items stops
  | block inner => exact statementOf_block block opensBlock inner
  | expression plain stops => exact statementOf_expression expression begins unbroken plain stops
  | empty stops => exact statementOf_empty stops

end

end DrawScript.Grammar
