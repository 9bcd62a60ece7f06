import DrawScript.Proofs.Grammar.Completeness.Expression

set_option autoImplicit false

namespace DrawScript.Grammar

section

variable (expression : Spelling Expr) (block : Spelling (Block Statement))

/-- The tokens before and behind one block of an if statement, and the tree around it. -/
inductive AroundIf : (pre post : List Token) → (Block Statement → Statement) → Prop
  | plain {keyword : Token} {tests : List Token} {test : Expr} (isIf : keyword.is .keyword "if")
      (tested : Condition expression tests test) :
      AroundIf (keyword :: tests) [] fun b => .ifElse test b none keyword.line
  | otherwise {keyword separator : Token} {tests others : List Token} {test : Expr}
      {elseBlock : Block Statement} (isIf : keyword.is .keyword "if")
      (tested : Condition expression tests test) (isElse : separator.is .keyword "else")
      (second : block others elseBlock) :
      AroundIf (keyword :: tests) (separator :: others) fun b =>
        .ifElse test b (some elseBlock) keyword.line
  | elseIf {keyword separator : Token} {tests others : List Token} {test : Expr}
      {link : Statement} (isIf : keyword.is .keyword "if")
      (tested : Condition expression tests test) (isElse : separator.is .keyword "else")
      (second : IfElse expression block others link) :
      AroundIf (keyword :: tests) (separator :: others) fun b =>
        .ifElse test b (some ⟨[link], separator.line⟩) keyword.line
  | elseBlock {keyword separator : Token} {tests thens : List Token} {test : Expr}
      {thenBlock : Block Statement} (isIf : keyword.is .keyword "if")
      (tested : Condition expression tests test) (first : block thens thenBlock)
      (isElse : separator.is .keyword "else") :
      AroundIf (keyword :: tests ++ thens ++ [separator]) [] fun b =>
        .ifElse test thenBlock (some b) keyword.line
  | link {keyword separator : Token} {tests thens pre post : List Token} {test : Expr}
      {thenBlock : Block Statement} {shape : Block Statement → Statement}
      (isIf : keyword.is .keyword "if") (tested : Condition expression tests test)
      (first : block thens thenBlock) (isElse : separator.is .keyword "else")
      (inner : AroundIf pre post shape) :
      AroundIf (keyword :: tests ++ thens ++ separator :: pre) post fun b =>
        .ifElse test thenBlock (some ⟨[shape b], separator.line⟩) keyword.line

/-- The tokens before and behind one block of a statement, and the tree around it. -/
inductive Around : (pre post : List Token) → (Block Statement → Statement) → Prop
  | block : Around [] [] .block
  | ifElse {pre post : List Token} {shape : Block Statement → Statement}
      (chain : AroundIf expression block pre post shape) : Around pre post shape
  | forLoop {keyword opening stop second closing : Token}
      {initials conditions increments : List Token} {initial : Option Statement}
      {condition increment : Option Expr} (isFor : keyword.is .keyword "for")
      (opens : opening.is .delimiter "(") (starts : ForInitial expression initials initial)
      (stops : stop.is .delimiter ";") (tested : Optional expression conditions condition)
      (stopsAgain : second.is .delimiter ";")
      (stepped : Optional expression increments increment) (closes : closing.is .delimiter ")") :
      Around (keyword :: opening :: initials ++ stop :: conditions ++ second :: increments ++
          [closing]) []
        fun b => .forLoop initial condition increment b keyword.line
  | whileLoop {keyword : Token} {tests : List Token} {test : Expr}
      (isWhile : keyword.is .keyword "while") (tested : Condition expression tests test) :
      Around (keyword :: tests) [] fun b => .whileLoop test b keyword.line
  | doWhile {keyword separator stop : Token} {tests : List Token} {test : Expr}
      (isDo : keyword.is .keyword "do") (isWhile : separator.is .keyword "while")
      (tested : Condition expression tests test) (stops : stop.is .delimiter ";") :
      Around [keyword] (separator :: tests ++ [stop]) fun b => .doWhile b test keyword.line
  | function {keyword name : Token} {tokens : List Token} {parameters : List String}
      (isFunction : keyword.is .keyword "function") (named : name.kind = .identifier)
      (items : Parenthesized Identifier tokens parameters) :
      Around (keyword :: name :: tokens) [] fun b => .function name.text parameters b keyword.line
  | animate {keyword opening comma closing : Token} {firsts seconds : List Token}
      {first second : Expr} (isAnimate : keyword.is .keyword "animate")
      (opens : opening.is .delimiter "(") (left : expression firsts first)
      (isComma : comma.is .delimiter ",") (right : expression seconds second)
      (closes : closing.is .delimiter ")") :
      Around (keyword :: opening :: firsts ++ comma :: seconds ++ [closing]) [] fun b =>
        .animate first second b keyword.line

variable {expression block} {tokens pre post : List Token} {b : Block Statement}
  {shape : Block Statement → Statement}

theorem AroundIf.begins (around : AroundIf expression block pre post shape) :
    Begins (·.is .keyword "if") pre := by
  cases around with
  | plain isIf | otherwise isIf | elseIf isIf | elseBlock isIf | link isIf =>
    exact ⟨_, _, rfl, isIf⟩

theorem AroundIf.fill (around : AroundIf expression block pre post shape) (inner : block tokens b) :
    IfElse expression block (pre ++ tokens ++ post) (shape b) := by
  induction around with
  | plain isIf tested => simpa using IfElse.plain isIf tested inner
  | otherwise isIf tested isElse second => exact IfElse.otherwise isIf tested inner isElse second
  | elseIf isIf tested isElse second => exact IfElse.elseIf isIf tested inner isElse second
  | elseBlock isIf tested first isElse =>
    simpa using IfElse.otherwise isIf tested first isElse inner
  | link isIf tested first isElse _ ih => simpa using IfElse.elseIf isIf tested first isElse ih

theorem Around.fill (around : Around expression block pre post shape) (inner : block tokens b) :
    StatementForm expression block (pre ++ tokens ++ post) (shape b) := by
  cases around with
  | block => simpa using StatementForm.block inner
  | ifElse chain => exact .ifElse (chain.fill inner)
  | forLoop isFor opens starts stops tested stopsAgain stepped closes =>
    simpa using StatementForm.forLoop isFor opens starts stops tested stopsAgain stepped closes
      inner
  | whileLoop isWhile tested => simpa using StatementForm.whileLoop isWhile tested inner
  | doWhile isDo isWhile tested stops =>
    simpa using StatementForm.doWhile isDo inner isWhile tested stops
  | function isFunction named items =>
    simpa using StatementForm.function isFunction named items inner
  | animate isAnimate opens left isComma right closes =>
    simpa using StatementForm.animate isAnimate opens left isComma right closes inner

end

/-- A statement at some depth of a list of statements, spelled by the middle one of three parts;
without it the other list is left. -/
inductive Occurs : (room : Nat) → (before own after : List Token) →
    (whole less : List Statement) → Statement → Prop
  | here {room : Nat} {before own after : List Token} {front back : List Statement} {s : Statement}
      (first : Sequence (StatementWithin room) before front) (spelled : StatementWithin room own s)
      (later : Sequence (StatementWithin room) after back) :
      Occurs room before own after (front ++ s :: back) (front ++ back) s
  | inside {room : Nat} {before own after outer pre post others : List Token}
      {opening closing : Token} {front back whole less : List Statement}
      {shape : Block Statement → Statement} {s : Statement}
      (first : Sequence (StatementWithin (room + 1)) outer front)
      (around : Around (Expression (room + 1)) (BlockWithin (room + 1)) pre post shape)
      (opens : opening.is .delimiter "\x7b") (inner : Occurs room before own after whole less s)
      (closes : closing.is .delimiter "\x7d")
      (later : Sequence (StatementWithin (room + 1)) others back) :
      Occurs (room + 1) (outer ++ (pre ++ opening :: before)) own
        (after ++ closing :: (post ++ others))
        (front ++ shape ⟨whole, opening.line⟩ :: back)
        (front ++ shape ⟨less, opening.line⟩ :: back) s

theorem Sequence.append {α : Type} {item : Spelling α} {tokens others : List Token}
    {values more : List α} (first : Sequence item tokens values)
    (second : Sequence item others more) : Sequence item (tokens ++ others) (values ++ more) := by
  induction first with
  | nil => exact second
  | cons head _ ih => simpa using Sequence.cons head ih

theorem Occurs.spelled {room : Nat} {before own after : List Token} {whole less : List Statement}
    {s : Statement} (occurs : Occurs room before own after whole less s) :
    Sequence (StatementWithin room) (before ++ own ++ after) whole := by
  induction occurs with
  | here first spelled later => simpa using first.append (.cons spelled later)
  | inside first around opens inner closes later ih =>
    have filled := around.fill (Braced.braces opens ih closes)
    simpa using first.append (.cons filled later)

def Clear (tokens : List Token) : Prop := ∀ token ∈ tokens, ¬Breaks token

namespace Clear

theorem nil : Clear [] := by simp [Clear]

theorem cons {token : Token} {tokens : List Token} {kind : Token.Kind} {text : String}
    (same : token.is kind text) (other : kind = .delimiter → text ∉ [";", "\x7b"])
    (clear : Clear tokens) : Clear (token :: tokens) :=
  List.forall_mem_cons.mpr ⟨Breaks.not_of_is same other, clear⟩

theorem name {token : Token} {tokens : List Token} (named : token.kind = .identifier)
    (clear : Clear tokens) : Clear (token :: tokens) := by
  simpa [Clear, Breaks, Token.is, named] using clear

theorem append {tokens others : List Token} (first : Clear tokens) (second : Clear others) :
    Clear (tokens ++ others) := by
  intro token member
  exact (List.mem_append.mp member).elim (first token) (second token)

end Clear

theorem Unbroken.clear {tokens : List Token} (unbroken : Unbroken tokens) : Clear tokens :=
  fun token member => (unbroken token member).2

section

variable {phrase : Spelling Expr} (phrases : ∀ tokens e, phrase tokens e → Unbroken tokens)
  {tokens : List Token}

theorem TypeOf.clear {e : Expr} {type : Option String} (typed : TypeOf tokens e type) :
    Clear tokens := by
  cases typed with
  | written isColon named => exact .cons isColon (by decide) (.name named .nil)
  | int | float | bool | untyped => exact .nil

include phrases

theorem Condition.clear {e : Expr} (spelled : Condition phrase tokens e) : Clear tokens := by
  cases spelled with
  | parenthesis opens inner closes =>
    exact .cons opens (by decide) ((phrases _ _ inner).clear.append (.cons closes (by decide) .nil))

theorem Optional.clear {e : Option Expr} (spelled : Optional phrase tokens e) : Clear tokens := by
  cases spelled with
  | none => exact .nil
  | some present => exact (phrases _ _ present).clear

theorem VarDeclaration.clear {s : Statement} (declared : VarDeclaration phrase tokens s) :
    Clear tokens := by
  cases declared with
  | declare isVar named typed isSign value =>
    exact .cons isVar (by decide) (.name named
      (typed.clear.append (.cons isSign (by decide) (phrases _ _ value).clear)))

theorem ForInitial.clear {initial : Option Statement} (spelled : ForInitial phrase tokens initial) :
    Clear tokens := by
  cases spelled with
  | none => exact .nil
  | var declared => exact declared.clear phrases
  | expression plain => exact (phrases _ _ plain).clear

end

theorem Identifier.unbroken (tokens : List Token) (name : String)
    (spelled : Identifier tokens name) : Unbroken tokens := by
  cases spelled with
  | name named => simp [Unbroken, Breaks, Token.is, named]

theorem append_cons_eq_append {α : Type} {before after front back : List α} {a : α}
    (split : before ++ a :: after = front ++ back) :
    (∃ more, front = before ++ a :: more ∧ after = more ++ back) ∨
      ∃ more, before = front ++ more ∧ back = more ++ a :: after := by
  obtain ⟨more, rfl, rest⟩ | ⟨more, rfl, rest⟩ := List.append_eq_append_iff.mp split
  next =>
    cases more with
    | nil => exact .inr ⟨[], by simp, by simpa using rest.symm⟩
    | cons head more =>
      obtain ⟨rfl, rfl⟩ := List.cons.inj rest
      exact .inl ⟨more, rfl, rfl⟩
  next => exact .inr ⟨more, rfl, rest⟩

theorem Clear.behind {front back before after : List Token} {stop : Token} (clear : Clear front)
    (breaks : Breaks stop) (split : before ++ stop :: after = front ++ back) :
    ∃ more, before = front ++ more ∧ back = more ++ stop :: after := by
  obtain ⟨more, rfl, -⟩ | found := append_cons_eq_append split
  next => exact absurd breaks (clear stop (by simp))
  next => exact found

theorem Clear.last {front before after : List Token} {stop ending : Token} (clear : Clear front)
    (breaks : Breaks stop) (split : before ++ stop :: after = front ++ [ending]) :
    stop = ending ∧ after = [] := by
  obtain ⟨more, rfl, rest⟩ := clear.behind breaks split
  cases more with
  | nil => simpa [eq_comm] using rest
  | cons => simp at rest

/-- The tokens of a for loop before one of the two semicolons in its header. -/
inductive InHeader (expression : Spelling Expr) : List Token → Prop
  | first {keyword opening : Token} {initials : List Token} {initial : Option Statement}
      (isFor : keyword.is .keyword "for") (opens : opening.is .delimiter "(")
      (starts : ForInitial expression initials initial) :
      InHeader expression (keyword :: opening :: initials)
  | second {keyword opening stop : Token} {initials conditions : List Token}
      {initial : Option Statement} {condition : Option Expr} (isFor : keyword.is .keyword "for")
      (opens : opening.is .delimiter "(") (starts : ForInitial expression initials initial)
      (stops : stop.is .delimiter ";") (tested : Optional expression conditions condition) :
      InHeader expression (keyword :: opening :: initials ++ stop :: conditions)

section

variable (around : (pre post : List Token) → (Block Statement → Statement) → Prop)
  (phrase : Spelling Expr) (braces : Spelling (Block Statement)) (stop : Token)

inductive InBlock : (before after : List Token) → Statement → Prop
  | intro {before after pre post : List Token} {shape : Block Statement → Statement}
      {b : Block Statement} (placed : around pre post shape)
      (spelled : braces (before ++ stop :: after) b) :
      InBlock (pre ++ before) (after ++ post) (shape b)

/-- The places that a semicolon can have in a statement; an opening brace is in a block. -/
inductive StopIn : (before after : List Token) → Statement → Prop
  | last {before : List Token} {s : Statement} (stops : stop.is .delimiter ";") :
      StopIn before [] s
  | header {before after : List Token} {s : Statement} (stops : stop.is .delimiter ";")
      (inHeader : InHeader phrase before) : StopIn before after s
  | inner {before after : List Token} {s : Statement}
      (inBlock : InBlock (Around phrase braces) braces stop before after s) :
      StopIn before after s

variable {around phrase braces stop} (phrases : ∀ tokens e, phrase tokens e → Unbroken tokens)
  (breaks : Breaks stop) {before after pre post tokens : List Token} {s : Statement}
  {shape : Block Statement → Statement} {b : Block Statement}

include breaks

theorem StopIn.of_last {front : List Token} {ending : Token} (clear : Clear front)
    (stops : ending.is .delimiter ";") (split : before ++ stop :: after = front ++ [ending]) :
    StopIn phrase braces stop before after s := by
  obtain ⟨rfl, rfl⟩ := clear.last breaks split
  exact .last stops

theorem InBlock.or_behind (placed : around pre post shape) (clear : Clear pre)
    (spelled : braces tokens b) (split : before ++ stop :: after = pre ++ (tokens ++ post)) :
    InBlock around braces stop before after (shape b) ∨
      ∃ more, before = pre ++ (tokens ++ more) ∧ post = more ++ stop :: after := by
  obtain ⟨more, rfl, rest⟩ := clear.behind breaks split
  obtain ⟨later, rfl, rfl⟩ | ⟨later, rfl, rfl⟩ := append_cons_eq_append rest.symm
  next => exact .inl (.intro placed spelled)
  next => exact .inr ⟨later, rfl, rfl⟩

theorem InBlock.of_front (placed : around pre [] shape) (clear : Clear pre)
    (spelled : braces tokens b) (split : before ++ stop :: after = pre ++ tokens) :
    InBlock around braces stop before after (shape b) := by
  obtain inBlock | ⟨more, -, rest⟩ :=
    InBlock.or_behind breaks placed clear spelled (by simpa using split)
  next => exact inBlock
  next => simp at rest

include phrases

theorem IfElse.inBlock (spelled : IfElse phrase braces tokens s)
    (split : before ++ stop :: after = tokens) :
    InBlock (AroundIf phrase braces) braces stop before after s := by
  induction spelled generalizing before with
  | plain isIf tested first =>
    exact InBlock.of_front breaks (AroundIf.plain isIf tested)
      (.cons isIf (by decide) (tested.clear phrases)) first split
  | otherwise isIf tested first isElse second =>
    have front := Clear.cons isIf (by decide) (tested.clear phrases)
    obtain inBlock | ⟨more, rfl, rest⟩ := InBlock.or_behind breaks
      (AroundIf.otherwise isIf tested isElse second) front first (by simpa using split)
    next => exact inBlock
    next =>
      obtain ⟨later, rfl, rfl⟩ := (Clear.cons isElse (by decide) .nil).behind breaks rest.symm
      have inElse := InBlock.intro (AroundIf.elseBlock isIf tested first isElse) second
      simpa using inElse
  | elseIf isIf tested first isElse second ih =>
    have front := Clear.cons isIf (by decide) (tested.clear phrases)
    obtain inBlock | ⟨more, rfl, rest⟩ := InBlock.or_behind breaks
      (AroundIf.elseIf isIf tested isElse second) front first (by simpa using split)
    next => exact inBlock
    next =>
      obtain ⟨later, rfl, rfl⟩ := (Clear.cons isElse (by decide) .nil).behind breaks rest.symm
      cases ih rfl with
      | intro placed spelled =>
        have inLink := InBlock.intro (AroundIf.link isIf tested first isElse placed) spelled
        simpa using inLink

theorem StatementForm.stopIn (spelled : StatementForm phrase braces tokens s)
    (split : before ++ stop :: after = tokens) : StopIn phrase braces stop before after s := by
  cases spelled with
  | var declared stops => exact .of_last breaks (declared.clear phrases) stops split
  | cursor isCursor named isSign isAgain items stops =>
    refine .of_last breaks (.cons isCursor (by decide) (.name named ?_)) stops split
    exact .cons isSign (by decide) (.cons isAgain (by decide) (items.unbroken phrases).clear)
  | ifElse chain =>
    cases chain.inBlock phrases breaks split with
    | intro placed spelled => exact .inner (.intro (.ifElse placed) spelled)
  | forLoop isFor opens starts stops tested stopsAgain stepped closes repeated =>
    -- The semicolons are met one after the other; what comes before each is clear.
    have front := Clear.cons isFor (by decide) (.cons opens (by decide) (starts.clear phrases))
    obtain ⟨more, rfl, first⟩ := front.behind breaks (by simpa using split)
    cases more with
    | nil =>
      obtain ⟨rfl, -⟩ := List.cons.inj first
      exact .header stops (by simpa using InHeader.first isFor opens starts)
    | cons _ more =>
      obtain ⟨rfl, conditions⟩ := List.cons.inj first
      obtain ⟨more, rfl, second⟩ := (tested.clear phrases).behind breaks conditions.symm
      cases more with
      | nil =>
        obtain ⟨rfl, -⟩ := List.cons.inj second
        exact .header stopsAgain (by simpa using InHeader.second isFor opens starts stops tested)
      | cons _ more =>
        obtain ⟨rfl, increments⟩ := List.cons.inj second
        obtain ⟨more, rfl, rfl⟩ := ((stepped.clear phrases).append
          (.cons closes (by decide) .nil)).behind breaks (by simpa using increments.symm)
        have placed : Around phrase braces _ _ _ :=
          .forLoop isFor opens starts stops tested stopsAgain stepped closes
        exact .inner (by simpa using InBlock.intro placed repeated)
  | whileLoop isWhile tested repeated =>
    exact .inner (InBlock.of_front breaks (Around.whileLoop isWhile tested)
      (.cons isWhile (by decide) (tested.clear phrases)) repeated split)
  | doWhile isDo repeated isWhile tested stops =>
    obtain inBlock | ⟨more, rfl, rest⟩ := InBlock.or_behind breaks
      (Around.doWhile isDo isWhile tested stops) (.cons isDo (by decide) .nil) repeated
      (by simpa using split)
    next => exact .inner inBlock
    next =>
      have clear := Clear.cons isWhile (by decide) (tested.clear phrases)
      obtain ⟨rfl, rfl⟩ := clear.last breaks rest.symm
      exact .last stops
  | function isFunction named items run =>
    refine .inner (InBlock.of_front breaks (Around.function isFunction named items) ?_ run split)
    exact .cons isFunction (by decide) (.name named (items.unbroken Identifier.unbroken).clear)
  | returnValue isReturn result stops =>
    exact .of_last breaks (.cons isReturn (by decide) (result.clear phrases)) stops split
  | copy isCopy taken four isTo put two stops =>
    refine .of_last breaks (.cons isCopy (by decide) ?_) stops split
    exact (taken.unbroken phrases).clear.append
      (.cons isTo (by decide) (put.unbroken phrases).clear)
  | animate isAnimate opens left isComma right closes repeated =>
    refine .inner (InBlock.of_front breaks
      (Around.animate isAnimate opens left isComma right closes) ?_ repeated (by simpa using split))
    have items := (phrases _ _ left).clear.append
      (.cons isComma (by decide) (phrases _ _ right).clear)
    exact .cons isAnimate (by decide) (.cons opens (by decide)
      (items.append (.cons closes (by decide) .nil)))
  | method isCursor isPoint named items stops =>
    refine .of_last breaks (.name isCursor (.cons isPoint (by decide) (.name named ?_))) stops split
    exact (items.unbroken phrases).clear
  | block inner => exact .inner (InBlock.of_front breaks Around.block .nil inner split)
  | expression plain stops => exact .of_last breaks (phrases _ _ plain).clear stops split
  | empty stops => exact .of_last breaks .nil stops split

end

theorem Sequence.item {α : Type} {item : Spelling α} {tokens before after : List Token}
    {token : Token} {values : List α} (spelled : Sequence item tokens values)
    (split : before ++ token :: after = tokens) :
    ∃ outer front inner value more others back, Sequence item outer front ∧
      item (inner ++ token :: more) value ∧ Sequence item others back ∧
      values = front ++ value :: back ∧ before = outer ++ inner ∧ after = more ++ others := by
  induction spelled generalizing before with
  | nil => simp at split
  | cons first later ih =>
    obtain ⟨more, rfl, rfl⟩ | ⟨more, rfl, rfl⟩ := append_cons_eq_append split
    next => exact ⟨[], [], before, _, more, _, _, .nil, first, later, rfl, rfl, rfl⟩
    next =>
      obtain ⟨outer, front, inner, value, rest, others, back, sequence, here, behind, rfl, rfl,
        rfl⟩ := ih rfl
      exact ⟨_, _, inner, value, rest, others, back, .cons first sequence, here, behind, rfl,
        by simp, rfl⟩

inductive InBraces (item : Spelling Statement) (token : Token) :
    (before after : List Token) → Block Statement → Prop
  | opening {closing : Token} {inside : List Token} {statements : List Statement}
      (opens : token.is .delimiter "\x7b") (inner : Sequence item inside statements)
      (closes : closing.is .delimiter "\x7d") :
      InBraces item token [] (inside ++ [closing]) ⟨statements, token.line⟩
  | inside {opening closing : Token} {before after : List Token} {statements : List Statement}
      (opens : opening.is .delimiter "\x7b")
      (inner : Sequence item (before ++ token :: after) statements)
      (closes : closing.is .delimiter "\x7d") :
      InBraces item token (opening :: before) (after ++ [closing]) ⟨statements, opening.line⟩

theorem Braced.inBraces {item : Spelling Statement} {tokens before after : List Token}
    {token : Token} {b : Block Statement} (spelled : Braced item tokens b)
    (other : ¬token.is .delimiter "\x7d") (split : before ++ token :: after = tokens) :
    InBraces item token before after b := by
  cases spelled with
  | braces opens inner closes =>
    obtain ⟨more, front, rfl⟩ | ⟨more, rfl, last⟩ := append_cons_eq_append split
    next =>
      cases before with
      | nil =>
        obtain ⟨rfl, rfl⟩ := List.cons.inj front
        exact .opening opens inner closes
      | cons _ before =>
        obtain ⟨rfl, rfl⟩ := List.cons.inj front
        exact .inside opens inner closes
    next =>
      cases more with
      | nil =>
        obtain ⟨rfl, -⟩ := List.cons.inj last
        exact absurd closes other
      | cons => simp at last

theorem Sequence.stop {room : Nat} {tokens before after : List Token} {stop : Token}
    {values : List Statement} (spelled : Sequence (StatementWithin room) tokens values)
    (isStop : stop.is .delimiter ";") (split : before ++ stop :: after = tokens) :
    ∃ outer inner more others less s,
      Occurs room outer (inner ++ stop :: more) others values less s ∧
      before = outer ++ inner ∧ after = more ++ others ∧
      (more = [] ∨ ∃ room, InHeader (Expression room) inner) := by
  induction room using Nat.strongRecOn generalizing tokens before after values with
  | ind room ih =>
    obtain ⟨outer, front, inner, s, more, others, back, first, here, later, rfl, rfl, rfl⟩ :=
      spelled.item split
    have place := here.stopIn (fun _ _ => Expression.unbroken) ⟨";", by simp, isStop⟩ rfl
    cases place with
    | last => exact ⟨outer, inner, [], others, _, s, .here first here later, rfl, rfl, .inl rfl⟩
    | header _ inHeader =>
      exact ⟨outer, inner, more, others, _, s, .here first here later, rfl, rfl,
        .inr ⟨room, inHeader⟩⟩
    | inner inBlock =>
      cases inBlock with
      | @intro before after pre post shape b placed braced =>
        -- In a block the braces are no semicolons, so one of its statements has it.
        cases room with
        | zero => exact braced.elim
        | succ room =>
          cases Braced.inBraces braced (by simp [Token.is_of_is isStop]) rfl with
          | opening opens => simp [Token.is_of_is isStop] at opens
          | inside opens sequence closes =>
            obtain ⟨outside, inner, more, beyond, less, s, occurs, rfl, rfl, kind⟩ :=
              ih room (Nat.lt_succ_self room) sequence rfl
            exact ⟨_, inner, more, _, _, s, .inside first placed opens occurs closes later,
              by simp, by simp, kind⟩

end DrawScript.Grammar
