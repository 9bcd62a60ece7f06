import DrawScript.Proofs.Grammar.Progress

set_option autoImplicit false

namespace DrawScript.Grammar

def Cause.halts : Cause → Bool
  | .unclosed _ _ | .stepLimit => true
  | _ => false

theorem run_takes_bind {α : Type} {kind : Token.Kind} {text : String} (f : Bool → Parser α)
    (s : State) :
    (takes kind text >>= f).run s =
      if s.sees kind text then (advance >>= fun _ => f true).run s else (f false).run s := by
  rw [EStateM.run_bind, run_takes]
  cases s.sees kind text <;> rfl

theorem takes_bind {α : Type} (kind : Token.Kind) (text : String) (f : Bool → Parser α) :
    takes kind text >>= f =
      get >>= fun s => if s.sees kind text then advance >>= fun _ => f true else f false := by
  refine funext fun s => ?_
  refine (run_takes_bind f s).trans ?_
  change _ = (ite _ _ _ : Parser α).run s
  split <;> rfl

/-- No form can tell these states apart, unless a semicolon is missing. -/
structure State.Alike (s t : State) : Prop where
  rest : t.rest = s.rest
  line : t.line = s.line

namespace State.Alike

variable {s t : State} (alike : s.Alike t)

include alike

theorem sees (kind : Token.Kind) (text : String) : t.sees kind text = s.sees kind text := by
  rw [State.sees, State.sees, alike.rest]

theorem front : (s.rest = [] ∧ t.rest = [] ∧ t.previous = s.previous) ∨
    ∃ token rest, s.rest = token :: rest ∧ t.rest = token :: rest := by
  have same := alike.rest
  have line := alike.line
  cases front : s.rest with
  | nil =>
    rw [front] at same
    rw [State.line, State.line, same, front] at line
    exact .inl ⟨rfl, same, line⟩
  | cons token rest => exact .inr ⟨token, rest, rfl, same.trans front⟩

end State.Alike

theorem State.exists_of_sees {s : State} {kind : Token.Kind} {text : String}
    (seen : s.sees kind text) (other : (kind, text) ≠ (.delimiter, "\x7d")) :
    ∃ token rest, s.rest = token :: rest ∧ ¬token.is .delimiter "\x7d" := by
  cases front : s.rest with
  | nil => simp [State.sees, front] at seen
  | cons token rest =>
    have same : token.is kind text := by simpa [State.sees, front] using seen
    exact ⟨token, rest, rfl, by simpa [Token.is_of_is same] using other⟩

/-- A property of what a parser does from a state on, stated with the number of tokens that it takes
at least if it succeeds. It may rely on the parser not telling states apart that are alike, and on
rejections naming only the lines that `Blames` allows. -/
structure Stepwise (Holds : {α : Type} → Nat → State → Parser α → Prop)
    (Blames : State → Nat → Prop) : Prop where
  weaken {α : Type} {least fewer : Nat} {s : State} {p : Parser α} (holds : Holds least s p)
    (le : fewer ≤ least) : Holds fewer s p
  stay {α : Type} (value : α) (s : State) : Holds 0 s (pure value)
  append {α β : Type} {least more : Nat} {s : State} {p : Parser α} {f : α → Parser β}
    (first : Holds least s p)
    (later : ∀ value t, (∀ line, Blames s line → Blames t line) → Holds more t (f value)) :
    Holds (least + more) s (p >>= f)
  blames (s : State) : Blames s s.line
  reject {α : Type} {least line : Nat} {cause : Cause} {s : State} (other : cause.halts = false)
    (blamed : Blames s line) : Holds least s (fail line cause : Parser α)
  look {α : Type} {least : Nat} {s : State} {f : State → Parser α}
    (same : ∀ t, s.Alike t → f t = f s) (holds : Holds least s (f s)) : Holds least s (get >>= f)
  take {s : State} {token : Token} {rest : List Token} (front : s.rest = token :: rest)
    (noClosing : ¬token.is .delimiter "\x7d") : Holds 1 s advance

namespace Stepwise

variable {Holds : {α : Type} → Nat → State → Parser α → Prop} {Blames : State → Nat → Prop}
  (laws : Stepwise Holds Blames)

include laws

section

variable {α β : Type} {least more : Nat} {s : State} {p : Parser α} {f : α → Parser β}

theorem keeping (first : Holds least s p)
    (later : ∀ value t, (∀ line, Blames s line → Blames t line) → Holds 0 t (f value)) :
    Holds least s (p >>= f) :=
  laws.append first later

theorem andThen (first : Holds least s p) (later : ∀ value t, Holds 0 t (f value)) :
    Holds least s (p >>= f) :=
  laws.keeping first fun value t _ => later value t

protected theorem bind (first : ∀ s, Holds least s p) (later : ∀ value t, Holds 0 t (f value)) :
    ∀ s, Holds least s (p >>= f) :=
  fun s => laws.andThen (first s) later

theorem before (first : ∀ s, Holds least s p) (later : ∀ value t, Holds more t (f value)) :
    ∀ s, Holds more s (p >>= f) :=
  fun s => laws.weaken (laws.append (first s) fun value t _ => later value t)
    (Nat.le_add_left more least)

end

theorem blamesNext {s : State} {token : Token} {rest : List Token}
    (front : s.rest = token :: rest) : Blames s token.line := by
  have blamed := laws.blames s
  rwa [State.line, front] at blamed

theorem blamesLast {s : State} (ended : s.rest = []) : Blames s s.previous := by
  have blamed := laws.blames s
  rwa [State.line, ended] at blamed

theorem lineThen {α : Type} {least : Nat} {f : Nat → Parser α}
    (later : ∀ s, Holds least s (f s.line)) : ∀ s, Holds least s (currentLine >>= f) :=
  fun s => laws.look (fun t alike => by rw [alike.line]) (later s)

protected theorem currentLine : ∀ s, Holds 0 s currentLine := laws.lineThen fun s => laws.stay _ s

protected theorem sees (kind : Token.Kind) (text : String) : ∀ s, Holds 0 s (sees kind text) :=
  fun s => laws.look (fun t alike => by rw [alike.sees]) (laws.stay _ s)

section

variable {α : Type} {least : Nat} {kind : Token.Kind} {text : String}
  (other : (kind, text) ≠ (.delimiter, "\x7d"))

include other

theorem takesThen {s : State} {f : Bool → Parser α} (taken : ∀ t, Holds 0 t (f true))
    (left : Holds least s (f false)) (fewer : least ≤ 1) :
    Holds least s (takes kind text >>= f) := by
  rw [takes_bind]
  refine laws.look (fun t alike => by rw [alike.sees]) ?_
  split
  next seen =>
    obtain ⟨token, rest, front, noClosing⟩ := State.exists_of_sees seen other
    exact laws.weaken (laws.andThen (laws.take front noClosing) fun _ => taken) fewer
  next => exact left

protected theorem takes : ∀ s, Holds 0 s (takes kind text) := by
  intro s
  have holds : Holds 0 s (takes kind text >>= pure) :=
    laws.takesThen other (laws.stay true) (laws.stay false s) (Nat.zero_le 1)
  rwa [bind_pure] at holds

end

section

variable {α : Type} {least : Nat}

theorem required {accepts : Token → Prop} [DecidablePred accepts] (result : Token → α)
    {wrong : Token → Cause} {missing : Cause}
    (noClosing : ∀ token, accepts token → ¬token.is .delimiter "\x7d")
    (wrongOther : ∀ token, (wrong token).halts = false) (missingOther : missing.halts = false) :
    ∀ s, Holds 1 s (do
      let s ← get
      match s.rest with
      | token :: _ =>
          if accepts token then
            advance
            return result token
          else fail token.line (wrong token)
      | [] => fail s.previous missing) := by
  intro s
  refine laws.look (fun t alike => ?_) ?_
  next => rcases alike.front with ⟨ended, same, last⟩ | ⟨_, _, front, same⟩ <;> simp only [*]
  cases front : s.rest with
  | nil => exact laws.reject missingOther (laws.blamesLast front)
  | cons token rest =>
    dsimp only
    split
    next accepted =>
      exact laws.andThen (laws.take front (noClosing token accepted)) fun _ => laws.stay _
    next => exact laws.reject (wrongOther token) (laws.blamesNext front)

protected theorem expect {kind : Token.Kind} {text : String}
    (other : (kind, text) ≠ (.delimiter, "\x7d")) : ∀ s, Holds 1 s (expect kind text) := by
  refine laws.required Token.line ?_ (fun _ => rfl) rfl
  intro token same
  simpa [Token.is_of_is same] using other

protected theorem expectName (place : NamePlace) : ∀ s, Holds 1 s (expectName place) := by
  refine laws.required Token.text ?_ (fun _ => rfl) rfl
  intro token named
  simp [Token.is, named]

variable {item : Parser α} (holds : ∀ s, Holds least s item)

include holds

protected theorem separated (bound : List Token) : ∀ s, Holds least s (separated item bound) := by
  induction bound with
  | nil => exact laws.bind holds fun _ => laws.stay _
  | cons _ bound ih =>
    refine laws.bind holds fun first => ?_
    refine laws.bind (laws.takes (by decide)) fun taken => ?_
    cases taken with
    | true => exact laws.before ih fun _ => laws.stay _
    | false => exact laws.stay _

protected theorem parenthesized : ∀ s, Holds 1 s (parenthesized item) := by
  have listed : ∀ s, Holds 0 s (listed item) := by
    refine laws.bind (laws.sees _ _) fun seen => ?_
    cases seen with
    | true => exact laws.stay _
    | false =>
      intro s
      refine laws.look (fun t alike => by rw [alike.rest]) ?_
      exact laws.weaken (laws.separated holds s.rest s) (Nat.zero_le least)
  refine laws.bind (laws.expect (by decide)) fun _ => ?_
  refine laws.bind listed fun _ => ?_
  exact laws.before (laws.expect (by decide)) fun _ => laws.stay _

end

protected theorem takeBinary (ops : List BinaryOp) : ∀ s, Holds 0 s (takeBinary ops) := by
  intro s
  refine laws.look (fun t alike => by rw [alike.rest]) ?_
  cases front : s.rest with
  | nil => exact laws.stay none s
  | cons token rest =>
    simp only [List.head?_cons, Option.bind_some]
    cases found : binaryOf? ops token with
    | none => exact laws.stay none s
    | some op =>
      have isSign := (binaryOf?_eq_some.mp found).2
      have taken : Holds 1 s advance := laws.take front (by simp [Token.is_of_is isSign])
      exact laws.andThen (laws.weaken taken (Nat.zero_le 1)) fun _ => laws.stay _

protected theorem takeUnary : ∀ s, Holds 0 s takeUnary := by
  intro s
  refine laws.look (fun t alike => by rw [alike.rest]) ?_
  cases front : s.rest with
  | nil => exact laws.stay none s
  | cons token rest =>
    simp only [List.head?_cons, Option.bind_some]
    cases found : unaryOf? token with
    | none => exact laws.stay none s
    | some op =>
      have isSign := unaryOf?_eq_some.mp found
      have taken : Holds 1 s advance := laws.take front (by simp [Token.is_of_is isSign])
      exact laws.andThen (laws.weaken taken (Nat.zero_le 1)) fun _ => laws.stay _

section

variable {p : Parser Expr} (operand : ∀ s, Holds 1 s p)

include operand

protected theorem chainFrom (ops : List BinaryOp) (bound : List Token) (left : Expr) :
    ∀ s, Holds 0 s (chainFrom ops p bound left) := by
  induction bound generalizing left with
  | nil => exact laws.stay left
  | cons _ bound ih =>
    refine laws.bind (laws.takeBinary ops) fun found => ?_
    cases found with
    | none => exact laws.stay left
    | some op => exact laws.before operand fun right => ih (.binary op left right)

protected theorem chain (ops : List BinaryOp) : ∀ s, Holds 1 s (chain ops p) := by
  refine laws.bind operand fun left s => ?_
  exact laws.look (fun t alike => by rw [alike.rest]) (laws.chainFrom operand ops s.rest left s)

protected theorem disjunction : ∀ s, Holds 1 s (disjunction p) := by
  have products : ∀ s, Holds 1 s (product p) := laws.chain operand _
  have sums : ∀ s, Holds 1 s (sum p) := laws.chain products _
  have comparisons : ∀ s, Holds 1 s (comparison p) := laws.chain sums _
  have equalities : ∀ s, Holds 1 s (equality p) := laws.chain comparisons _
  exact laws.chain (laws.chain equalities _) _

protected theorem assignment (bound : List Token) : ∀ s, Holds 1 s (assignment p bound) := by
  induction bound with
  | nil => exact laws.disjunction operand
  | cons _ bound ih =>
    refine laws.bind (laws.disjunction operand) fun target => ?_
    refine laws.lineThen fun s => ?_
    have sign : Holds 0 s (takes .assign "=") := laws.takes (by decide) s
    refine laws.keeping sign fun taken t keptSign => ?_
    cases taken with
    | false => exact laws.stay target t
    | true =>
      -- The line is that of the sign, remembered while the value is read.
      refine laws.weaken (laws.keeping (ih t) fun value u kept => ?_) (Nat.zero_le 1)
      cases target with
      | identifier name => exact laws.stay _ u
      | _ => exact laws.reject rfl (kept _ (keptSign _ (laws.blames s)))

protected theorem expressionOf : ∀ s, Holds 1 s (expressionOf p) :=
  fun s => laws.look (fun t alike => by rw [alike.rest]) (laws.assignment operand s.rest s)

end

protected theorem primary {p : Parser Expr} (expression : ∀ s, Holds 1 s p) :
    ∀ s, Holds 1 s (primary p) := by
  intro s
  refine laws.look (fun t alike => ?_) ?_
  next => rcases alike.front with ⟨ended, same, last⟩ | ⟨_, _, front, same⟩ <;> simp only [*]
  cases front : s.rest with
  | nil => exact laws.reject rfl (laws.blamesLast front)
  | cons token rest =>
    have unexpected : Holds 1 s (fail token.line (.expectedExpression (some token.text)) :
        Parser Expr) := laws.reject rfl (laws.blamesNext front)
    dsimp only
    split
    next kind _ =>
      exact laws.andThen (laws.take front (by simp [Token.is, kind])) fun _ => laws.stay _
    next kind _ =>
      exact laws.andThen (laws.take front (by simp [Token.is, kind])) fun _ => laws.stay _
    next kind _ =>
      exact laws.andThen (laws.take front (by simp [Token.is, kind])) fun _ => laws.stay _
    next text _ value =>
      split
      next opens =>
        refine laws.andThen (laws.take front (by simp [Token.is, value, opens])) fun _ => ?_
        refine laws.before expression fun _ => ?_
        exact laws.before (laws.expect (by decide)) fun _ => laws.stay _
      next => exact unexpected
    next name kind _ =>
      refine laws.andThen (laws.take front (by simp [Token.is, kind])) fun _ => ?_
      refine laws.bind (laws.sees _ _) fun seen => ?_
      cases seen with
      | true => exact laws.before (laws.parenthesized expression) fun _ => laws.stay _
      | false => exact laws.stay _
    next => exact unexpected

protected theorem operand (room : Nat) : ∀ s, Holds 1 s (operand room) := by
  induction room with
  | zero => exact laws.lineThen fun s => laws.reject rfl (laws.blames s)
  | succ room ih =>
    refine laws.before laws.takeUnary fun found => ?_
    cases found with
    | none => exact laws.primary (laws.expressionOf ih)
    | some op => exact laws.bind ih fun _ => laws.stay _

protected theorem expression (room : Nat) : ∀ s, Holds 1 s (expression room) :=
  laws.expressionOf (laws.operand room)

protected theorem annotation : ∀ s, Holds 0 s annotation := by
  refine laws.bind (laws.takes (by decide)) fun taken => ?_
  cases taken with
  | true => exact laws.before (laws.expectName _) fun _ => laws.stay _
  | false => exact laws.stay none

protected theorem expectInitial (name : String) : ∀ s, Holds 0 s (expectInitial name) := by
  refine laws.bind (laws.takes (by decide)) fun taken => ?_
  cases taken with
  | true => exact laws.stay ()
  | false => exact laws.lineThen fun s => laws.reject rfl (laws.blames s)

section

variable {p : Parser Expr} (expression : ∀ s, Holds 1 s p)

include expression

protected theorem condition : ∀ s, Holds 1 s (condition p) := by
  refine laws.bind (laws.expect (by decide)) fun _ => ?_
  refine laws.before expression fun _ => ?_
  exact laws.before (laws.expect (by decide)) fun _ => laws.stay _

protected theorem optional (stop : String) : ∀ s, Holds 0 s (optional p stop) := by
  refine laws.bind (laws.sees _ _) fun stopped => ?_
  cases stopped with
  | true => exact laws.stay none
  | false => exact laws.before expression fun _ => laws.stay _

protected theorem copyArguments {s : State} {line : Nat} (blamed : Blames s line) (side : CopyEnd) :
    Holds 1 s (copyArguments p line side) := by
  refine laws.keeping (laws.parenthesized expression s) fun arguments t kept => ?_
  split
  next => exact laws.stay arguments t
  next => exact laws.reject rfl (kept line blamed)

protected theorem varDeclaration : ∀ s, Holds 1 s (varDeclaration p) := by
  refine laws.bind (laws.expect (by decide)) fun _ => ?_
  refine laws.before (laws.expectName _) fun _ => ?_
  refine laws.bind laws.annotation fun _ => ?_
  refine laws.bind (laws.expectInitial _) fun _ => ?_
  exact laws.before expression fun _ => laws.stay _

protected theorem forInitial : ∀ s, Holds 0 s (forInitial p) := by
  refine laws.bind (laws.sees _ _) fun stopped => ?_
  cases stopped with
  | true => exact laws.stay none
  | false =>
    refine laws.bind (laws.sees _ _) fun declares => ?_
    cases declares with
    | true => exact laws.before (laws.varDeclaration expression) fun _ => laws.stay _
    | false =>
      refine laws.bind laws.currentLine fun _ => ?_
      exact laws.before expression fun _ => laws.stay _

end

end Stepwise

/-- What holds of statements too. Errors may be reported in their blocks, so only `Quiet` parts keep
the lines to blame. A block belongs to a construct on a `Known` line, and a missing semicolon is
blamed on the token taken last, once there is one. -/
structure StatementStepwise (Quiet Holds : {α : Type} → Nat → State → Parser α → Prop)
    (Blames : State → Nat → Prop) (Taken : State → Prop) (Known : Nat → Prop) : Prop
    extends Stepwise Quiet Blames where
  remain {α : Type} (value : α) (s : State) : Holds 0 s (pure value)
  lessen {α : Type} {least fewer : Nat} {s : State} {p : Parser α} (holds : Holds least s p)
    (le : fewer ≤ least) : Holds fewer s p
  quietly {α β : Type} {least more : Nat} {s : State} {p : Parser α} {f : α → Parser β}
    (first : Quiet least s p)
    (later : ∀ value t, (∀ line, Blames s line → Blames t line) →
      (Taken s ∨ 0 < least → Taken t) → Holds more t (f value)) : Holds (least + more) s (p >>= f)
  follow {α β : Type} {least more : Nat} {s : State} {p : Parser α} {f : α → Parser β}
    (first : Holds least s p)
    (later : ∀ value t, (Taken s ∨ 0 < least → Taken t) → Holds more t (f value)) :
    Holds (least + more) s (p >>= f)
  glance {α : Type} {least : Nat} {s : State} {f : State → Parser α}
    (same : ∀ t, s.Alike t → f t = f s) (holds : Holds least s (f s)) : Holds least s (get >>= f)
  know {α : Type} {least : Nat} {s : State} {p : Parser α}
    (holds : Known s.line → Holds least s p) : Holds least s p
  missing {s : State} (closing : Closing) (taken : Taken s) :
    Holds 0 s (do fail (← get).previous (.missingSemicolon closing) : Parser Unit)

-- Where nothing depends on lines or on the tokens taken, statements are no different.
theorem Stepwise.statements {Holds : {α : Type} → Nat → State → Parser α → Prop}
    (laws : Stepwise Holds fun _ _ => True)
    (missing : ∀ closing s,
      Holds 0 s (do fail (← get).previous (.missingSemicolon closing) : Parser Unit)) :
    StatementStepwise Holds Holds (fun _ _ => True) (fun _ => True) fun _ => True where
  toStepwise := laws
  remain := laws.stay
  lessen := laws.weaken
  quietly first later := laws.append first fun value t kept => later value t kept fun _ => trivial
  follow first later := laws.append first fun value t _ => later value t fun _ => trivial
  glance := laws.look
  know holds := holds trivial
  missing closing _ := missing closing _

namespace StatementStepwise

variable {Quiet Holds : {α : Type} → Nat → State → Parser α → Prop} {Blames : State → Nat → Prop}
  {Taken : State → Prop} {Known : Nat → Prop}
  (laws : StatementStepwise Quiet Holds Blames Taken Known)

include laws

section

variable {α β : Type} {least : Nat} {p : Parser α} {f : α → Parser β}

theorem loud {s : State} (quiet : Quiet least s p) : Holds least s p := by
  have whole : Holds least s (p >>= pure) :=
    laws.quietly quiet fun value t _ _ => laws.remain value t
  rwa [bind_pure] at whole

theorem passing {s : State} (first : Quiet least s p)
    (later : ∀ value t, (∀ line, Blames s line → Blames t line) → (Taken s → Taken t) →
      Holds 0 t (f value)) : Holds 0 s (p >>= f) := by
  have whole : Holds (least + 0) s (p >>= f) := laws.quietly first fun value t blames kept =>
    later value t blames fun taken => kept (.inl taken)
  exact laws.lessen whole (Nat.zero_le _)

theorem pass (first : ∀ s, Quiet least s p) (later : ∀ value t, Taken t → Holds 0 t (f value)) :
    ∀ s, Taken s → Holds 0 s (p >>= f) :=
  fun s taken => laws.passing (first s) fun value t _ kept => later value t (kept taken)

theorem inner (first : ∀ s, Holds least s p) (later : ∀ value t, Taken t → Holds 0 t (f value)) :
    ∀ s, Taken s → Holds 0 s (p >>= f) := by
  intro s taken
  have whole : Holds (least + 0) s (p >>= f) :=
    laws.follow (first s) fun value t kept => later value t (kept (.inl taken))
  exact laws.lessen whole (Nat.zero_le _)

theorem start (first : ∀ s, Quiet 1 s p) (later : ∀ value t, Taken t → Holds 0 t (f value)) :
    ∀ s, Holds 1 s (p >>= f) := by
  intro s
  have whole : Holds (1 + 0) s (p >>= f) := laws.quietly (first s) fun value t _ kept =>
    later value t (kept (.inr Nat.one_pos))
  exact whole

theorem expectThen {kind : Token.Kind} {text : String}
    (other : (kind, text) ≠ (.delimiter, "\x7d")) {s : State} {f : Nat → Parser β}
    (later : ∀ t, Blames t s.line → Taken t → Holds 0 t (f s.line)) :
    Holds 1 s (expect kind text >>= f) := by
  rw [expect, bind_assoc]
  refine laws.glance (fun t alike => ?_) ?_
  next => rcases alike.front with ⟨ended, same, last⟩ | ⟨_, _, front, same⟩ <;> simp only [*]
  cases front : s.rest with
  | nil => exact laws.loud (laws.reject rfl (laws.blamesLast front))
  | cons token rest =>
    dsimp only
    split
    next same =>
      have noClosing : ¬token.is .delimiter "\x7d" := by simpa [Token.is_of_is same] using other
      have here : s.line = token.line := by rw [State.line, front]
      have whole : Holds (1 + 0) s (advance >>= fun _ => f s.line) :=
        laws.quietly (laws.take front noClosing) fun _ t blames kept =>
          later t (blames _ (laws.blames s)) (kept (.inr Nat.one_pos))
      rw [here] at whole
      rwa [bind_assoc]
    next => exact laws.loud (laws.reject rfl (laws.blamesNext front))

theorem keyword {kind : Token.Kind} {text : String} (other : (kind, text) ≠ (.delimiter, "\x7d"))
    {f : Nat → Parser β} (later : ∀ line, Known line → ∀ t, Taken t → Holds 0 t (f line)) :
    ∀ s, Holds 1 s (expect kind text >>= f) := by
  refine fun s => laws.know fun known => ?_
  exact laws.expectThen other fun t _ taken => later s.line known t taken

theorem done (value : α) : ∀ s, Taken s → Holds 0 s (pure value) := fun s _ => laws.remain value s

end

protected theorem expectSemicolon (closing : Closing) :
    ∀ s, Taken s → Holds 0 s (expectSemicolon closing) := by
  refine laws.pass (laws.takes (by decide)) fun found t taken => ?_
  cases found with
  | true => exact laws.remain () t
  | false => exact laws.missing closing taken

theorem semicolon {α : Type} (closing : Closing) (value : α) :
    ∀ s, Taken s → Holds 0 s (do expectSemicolon closing; pure value) :=
  fun s taken => laws.follow (laws.expectSemicolon closing s taken) fun _ t _ =>
    laws.remain value t

protected theorem functionStatement {body : BlockParser}
    (block : ∀ owner, Known owner.line → ∀ s, Holds 1 s (body owner)) :
    ∀ s, Holds 1 s (functionStatement body) := by
  refine laws.keyword (by decide) fun line known => ?_
  refine laws.pass (laws.expectName _) fun _ => ?_
  refine laws.pass (laws.parenthesized (laws.expectName _)) fun _ => ?_
  exact laws.inner (block _ known) fun _ => laws.done _

section

variable {p : Parser Expr} (expression : ∀ s, Quiet 1 s p)

include expression

protected theorem varStatement : ∀ s, Holds 1 s (varStatement p) := by
  refine laws.start (laws.varDeclaration expression) fun _ => ?_
  exact laws.semicolon _ _

protected theorem cursorStatement : ∀ s, Holds 1 s (cursorStatement p) := by
  refine laws.keyword (by decide) fun _ _ => ?_
  refine laws.pass (laws.expectName _) fun _ => ?_
  refine laws.pass (laws.expect (by decide)) fun _ => ?_
  refine laws.pass (laws.expect (by decide)) fun _ => ?_
  refine laws.pass (laws.parenthesized expression) fun _ => ?_
  exact laws.semicolon _ _

protected theorem returnStatement : ∀ s, Holds 1 s (returnStatement p) := by
  refine laws.keyword (by decide) fun _ _ => ?_
  refine laws.pass (laws.optional expression _) fun _ => ?_
  exact laws.semicolon _ _

protected theorem copyStatement : ∀ s, Holds 1 s (copyStatement p) := by
  -- The line of the keyword is blamed for too few arguments, so it has to stay one to blame.
  intro s
  refine laws.expectThen (by decide) fun t blamed started => ?_
  refine laws.passing (laws.copyArguments expression blamed .source) fun _ u kept taken => ?_
  have blamed := kept _ blamed
  have started := taken started
  have separator : Quiet 1 u (expect .keyword "to") := laws.expect (by decide) u
  refine laws.passing separator fun _ v kept taken => ?_
  have destination := laws.copyArguments expression (kept _ blamed) .destination
  have started := taken started
  refine laws.passing destination fun _ w _ taken => ?_
  exact laws.semicolon _ _ w (taken started)

protected theorem methodStatement : ∀ s, Holds 1 s (methodStatement p) := by
  refine fun s => laws.glance (fun t alike => by rw [alike.line]) ?_
  refine laws.start (laws.expectName _) (fun _ => ?_) s
  refine laws.pass (laws.expect (by decide)) fun _ => ?_
  refine laws.pass (laws.expectName _) fun _ => ?_
  refine laws.pass (laws.parenthesized expression) fun _ => ?_
  exact laws.semicolon _ _

protected theorem expressionStatement : ∀ s, Holds 1 s (expressionStatement p) := by
  refine fun s => laws.glance (fun t alike => by rw [alike.line]) ?_
  refine laws.start expression (fun _ => ?_) s
  exact laws.semicolon _ _

variable {body : BlockParser} (block : ∀ owner, Known owner.line → ∀ s, Holds 1 s (body owner))

include block

protected theorem ifStatement (bound : List Token) :
    ∀ s, Holds 1 s (ifStatement p body bound) := by
  induction bound with
  | nil => exact fun s => laws.loud (laws.lineThen (fun t => laws.reject rfl (laws.blames t)) s)
  | cons _ bound ih =>
    refine laws.keyword (by decide) fun line known => ?_
    refine laws.pass (laws.condition expression) fun _ => ?_
    refine laws.inner (block _ known) fun _ => ?_
    refine laws.pass laws.currentLine fun _ => ?_
    refine laws.pass (laws.takes (by decide)) fun found => ?_
    cases found with
    | false => exact laws.done _
    | true =>
      refine laws.pass (laws.sees _ _) fun seen => ?_
      cases seen with
      | true => exact laws.inner ih fun _ => laws.done _
      | false => exact laws.inner (block _ known) fun _ => laws.done _

protected theorem forStatement : ∀ s, Holds 1 s (forStatement p body) := by
  refine laws.keyword (by decide) fun line known => ?_
  refine laws.pass (laws.expect (by decide)) fun _ => ?_
  refine laws.pass (laws.forInitial expression) fun _ => ?_
  refine laws.pass (laws.expect (by decide)) fun _ => ?_
  refine laws.pass (laws.optional expression _) fun _ => ?_
  refine laws.pass (laws.expect (by decide)) fun _ => ?_
  refine laws.pass (laws.optional expression _) fun _ => ?_
  refine laws.pass (laws.expect (by decide)) fun _ => ?_
  exact laws.inner (block _ known) fun _ => laws.done _

protected theorem whileStatement : ∀ s, Holds 1 s (whileStatement p body) := by
  refine laws.keyword (by decide) fun line known => ?_
  refine laws.pass (laws.condition expression) fun _ => ?_
  exact laws.inner (block _ known) fun _ => laws.done _

protected theorem doStatement : ∀ s, Holds 1 s (doStatement p body) := by
  refine laws.keyword (by decide) fun line known => ?_
  refine laws.inner (block _ known) fun _ => ?_
  refine laws.pass (laws.expect (by decide)) fun _ => ?_
  refine laws.pass (laws.condition expression) fun _ => ?_
  exact laws.semicolon _ _

protected theorem animateStatement : ∀ s, Holds 1 s (animateStatement p body) := by
  refine laws.keyword (by decide) fun line known => ?_
  refine laws.pass (laws.expect (by decide)) fun _ => ?_
  refine laws.pass expression fun _ => ?_
  refine laws.pass (laws.expect (by decide)) fun _ => ?_
  refine laws.pass expression fun _ => ?_
  refine laws.pass (laws.expect (by decide)) fun _ => ?_
  exact laws.inner (block _ known) fun _ => laws.done _

protected theorem keywordStatement {s : State} {token : Token} {rest : List Token}
    (front : s.rest = token :: rest) : Holds 1 s (keywordStatement p body token) := by
  unfold keywordStatement
  split
  next => exact laws.varStatement expression s
  next => exact laws.cursorStatement expression s
  next =>
    refine laws.glance (fun t alike => by rw [alike.rest]) ?_
    exact laws.ifStatement expression block s.rest s
  next => exact laws.forStatement expression block s
  next => exact laws.whileStatement expression block s
  next => exact laws.doStatement expression block s
  next => exact laws.functionStatement block s
  next => exact laws.returnStatement expression s
  next => exact laws.copyStatement expression s
  next => exact laws.animateStatement expression block s
  next => exact laws.loud (laws.reject rfl (laws.blamesNext front))

protected theorem statementOf : ∀ s, Holds 1 s (statementOf p body) := by
  intro s
  refine laws.glance (fun t alike => ?_) ?_
  next => rcases alike.front with ⟨ended, same, last⟩ | ⟨_, _, front, same⟩ <;> simp only [*]
  cases front : s.rest with
  | nil => exact laws.loud (laws.reject rfl (laws.blamesLast front))
  | cons token rest =>
    dsimp only
    split
    next => exact laws.keywordStatement expression block front
    next =>
      -- An empty statement is its semicolon; every other form takes a token of its own.
      rw [takes_bind]
      refine laws.glance (fun t alike => by rw [alike.sees]) ?_
      split
      next seen =>
        obtain ⟨_, _, front, noClosing⟩ := State.exists_of_sees seen (by decide)
        exact laws.quietly (laws.take front noClosing) fun _ t _ _ => laws.remain _ t
      next =>
        simp only [Bool.false_eq_true, if_false]
        split
        next =>
          refine laws.know fun known => ?_
          rw [State.line, front] at known
          exact laws.follow (block ⟨.block, token.line⟩ known s) fun _ t _ => laws.remain _ t
        next =>
          split
          next => exact laws.methodStatement expression s
          next => exact laws.expressionStatement expression s

end

theorem noRoom (owner : Owner) : ∀ s, Holds 1 s (block 0 owner) :=
  fun s => laws.loud (laws.lineThen (fun t => laws.reject rfl (laws.blames t)) s)

protected theorem statement {room : Nat}
    (block : ∀ owner, Known owner.line → ∀ s, Holds 1 s (block room owner)) :
    ∀ s, Holds 1 s (statement room) :=
  laws.statementOf (laws.expression room) block

end StatementStepwise

end DrawScript.Grammar
