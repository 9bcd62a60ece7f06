import DrawScript.Code.Expression
import DrawScript.Proofs.Grammar.Acceptance
import DrawScript.Proofs.Grammar.Levels
import DrawScript.Proofs.Script.Walk
import DrawScript.Proofs.Token.Composition

set_option autoImplicit false

namespace DrawScript

namespace Expr

def isIdentifier : Expr → Bool
  | .identifier _ => true
  | _ => false

theorem exists_of_isIdentifier {e : Expr} (isIdentifier : e.isIdentifier) :
    ∃ name, e = .identifier name := by
  cases e with
  | identifier name => exact ⟨name, rfl⟩
  | _ => cases isIdentifier

/-- Conditions on one expression of a tree under which its text can be read back. -/
def Writable : Expr → Prop
  | .call callee _ => IsName callee ∧ (Catalogue.drawFunction? callee).isNone
  | .binary op left _ => op = .assign → left.isIdentifier
  | .unary _ _ | .boolean _ => True
  | .identifier name => IsName name
  -- up to 2 ^ 53 no two integers are the same double
  | .number (.int n) => 0 ≤ n ∧ n ≤ (1 <<< 53 : Nat)
  | .number (.float _) => False
  -- a quote or a line end would end the literal
  | .string contents => '"' ∉ contents.toList ∧ '\n' ∉ contents.toList

instance : DecidablePred Writable
  | .call callee _ =>
      inferInstanceAs (Decidable (IsName callee ∧ (Catalogue.drawFunction? callee).isNone))
  | .binary op left _ => inferInstanceAs (Decidable (op = .assign → left.isIdentifier))
  | .unary _ _ | .boolean _ => .isTrue trivial
  | .identifier name => inferInstanceAs (Decidable (IsName name))
  | .number (.int n) => inferInstanceAs (Decidable (0 ≤ n ∧ n ≤ (1 <<< 53 : Nat)))
  | .number (.float _) => .isFalse id
  | .string contents =>
      inferInstanceAs (Decidable ('"' ∉ contents.toList ∧ '\n' ∉ contents.toList))

def surfaceMacro (name : String) : String :=
  if name = "CANVAS_WIDTH" then "SCREEN_WIDTH"
  else if name = "CANVAS_HEIGHT" then "SCREEN_HEIGHT"
  else name

mutual
def onSurface : Expr → Expr
  | .call callee arguments => .call callee (onSurfaceAll arguments)
  | .binary op left right => .binary op left.onSurface right.onSurface
  | .unary op operand => .unary op operand.onSurface
  | .identifier name => .identifier (surfaceMacro name)
  | .number n => .number n
  | .string contents => .string contents
  | .boolean b => .boolean b

def onSurfaceAll : List Expr → List Expr
  | [] => []
  | e :: es => e.onSurface :: onSurfaceAll es
end

def wraps : Expr → Nat
  | .binary .. => 1
  | _ => 0

mutual
/-- How deep operands nest in the text of an expression that stands alone. A prefix operator is
always written in parentheses, and both count. -/
def levels : Expr → Nat
  | .binary _ left right => max (left.levels + left.wraps) (right.levels + right.wraps)
  | .unary _ operand => operand.levels + operand.wraps + 2
  | .call _ arguments => levelsAll arguments + 1
  | .identifier _ | .number _ | .string _ | .boolean _ => 1

def levelsAll : List Expr → Nat
  | [] => 0
  | e :: es => max e.levels (levelsAll es)
end

end Expr

namespace Code

open Grammar

def enclosed (e : Expr) (text : String) : String :=
  match e with
  | .binary .. => "(" ++ text ++ ")"
  | _ => text

theorem dropEnds_parenthesis (text : String) : dropEnds ("(" ++ text ++ ")") = text := by
  simp [dropEnds]

theorem bare_enclosed (e : Expr) (text : String) : bare e (enclosed e text) = text := by
  cases e with
  | binary op left right => exact dropEnds_parenthesis text
  | _ => rfl

structure Bare (line : Nat) (e : Expr) (text : String) (tokens : List Token) : Prop where
  rendered : ∀ line, render line e = .ok (enclosed e text)
  readsAs : ReadsAs line text.toList tokens
  needs : Needs Expression e.levels tokens e.onSurface

structure Enclosed (line : Nat) (e : Expr) (text : String) (tokens : List Token) : Prop where
  rendered : ∀ line, render line e = .ok text
  readsAs : ReadsAs line text.toList tokens
  needs : Operand.Needs (e.levels + e.wraps) tokens e.onSurface

theorem Bare.parenthesized {line : Nat} {op : BinaryOp} {left right : Expr} {text : String}
    {tokens : List Token} (bare : Bare line (.binary op left right) text tokens) :
    Enclosed line (.binary op left right) ("(" ++ text ++ ")")
      (.ofLexeme .delimiter "(" line :: tokens ++ [.ofLexeme .delimiter ")" line]) := by
  refine ⟨bare.rendered, ?_, ?_⟩
  next => simpa using bare.readsAs.parenthesized
  next => exact .parenthesis rfl rfl bare.needs

theorem Enclosed.bare {line : Nat} {e : Expr} {text : String} {tokens : List Token}
    (whole : Enclosed line e text tokens) (same : e.wraps = 0) : Bare line e text tokens := by
  have needs := whole.needs
  rw [same] at needs
  refine ⟨?_, whole.readsAs, needs.expression⟩
  cases e with
  | binary => cases same
  | _ => exact whole.rendered

section Trees

variable {line : Nat} {text other : String} {tokens others : List Token}

theorem surfaceName?_getD (name : String) :
    (Catalogue.surfaceName? name).getD name = Expr.surfaceMacro name := by
  by_cases width : name = "CANVAS_WIDTH"
  next =>
    rw [width]
    decide
  next =>
    by_cases height : name = "CANVAS_HEIGHT"
    next =>
      rw [height]
      decide
    next =>
      have widthTest := beq_eq_false_iff_ne.mpr width
      have heightTest := beq_eq_false_iff_ne.mpr height
      simp [Catalogue.surfaceName?, Catalogue.surfaceNames, Expr.surfaceMacro, List.lookup_cons,
        width, height, widthTest, heightTest]

theorem isName_surfaceMacro {name : String} (isName : IsName name) :
    IsName (Expr.surfaceMacro name) := by
  rw [Expr.surfaceMacro]
  split
  next => decide
  next =>
    split
    next => decide
    next => exact isName

theorem Enclosed.identifier {name : String} (isName : IsName name) :
    Enclosed line (.identifier name) (Expr.surfaceMacro name)
      [.ofLexeme .identifier (Expr.surfaceMacro name) line] := by
  have named := Token.is_ofLexeme .identifier (Expr.surfaceMacro name) line
  refine ⟨?_, .name (isName_surfaceMacro isName), ?_⟩
  next =>
    intro line
    rw [render, surfaceName?_getD]
  next => exact .single (role_identifier named) fun _ => .identifier named

theorem Enclosed.number {n : Nat} (bound : n ≤ 1 <<< 53) :
    Enclosed line (.number (.int n)) (toString n) [⟨.number, .number (.int n), line⟩] := by
  have digits : (toString n).toList = Nat.toDigits 10 n := by simp [toString, Nat.repr]
  refine ⟨fun _ => rfl, ?_, .single rfl fun _ => .number⟩
  rw [digits]
  exact .integer bound

theorem Enclosed.string {contents : String} (quoteless : '"' ∉ contents.toList)
    (oneLine : '\n' ∉ contents.toList) :
    Enclosed line (.string contents) ("\"" ++ contents ++ "\"")
      [⟨.string, .string contents, line⟩] := by
  have quoted : ("\"" ++ contents ++ "\"").toList = '"' :: (contents.toList ++ ['"']) := by simp
  refine ⟨fun _ => rfl, ?_, .single rfl fun _ => .string⟩
  rw [quoted]
  exact .string quoteless oneLine

theorem Enclosed.boolean (b : Bool) :
    Enclosed line (.boolean b) (if b then "true" else "false") [⟨.boolean, .boolean b, line⟩] :=
  ⟨fun _ => rfl, .boolean b, .single rfl fun _ => .boolean⟩

theorem Enclosed.unary (op : UnaryOp) {e : Expr} (inner : Enclosed line e text tokens) :
    Enclosed line (.unary op e) ("(" ++ op.symbol ++ text ++ ")")
      (.ofLexeme .delimiter "(" line :: (.ofLexeme .operator op.symbol line :: tokens) ++
        [.ofLexeme .delimiter ")" line]) := by
  have isSign := Token.is_ofLexeme .operator op.symbol line
  refine ⟨?_, ?_, ?_⟩
  next =>
    intro line
    rw [render, inner.rendered]
    rfl
  next => simpa using (inner.readsAs.signed op).parenthesized
  next => exact .parenthesis rfl rfl (inner.needs.signed isSign).expression

theorem Bare.binary (op : BinaryOp) {left right : Expr} (first : Enclosed line left text tokens)
    (second : Enclosed line right other others)
    (target : op = .assign → left.isIdentifier) :
    Bare line (.binary op left right) (text ++ " " ++ op.symbol ++ " " ++ other)
      (tokens ++ op.token line :: others) := by
  refine ⟨?_, ?_, ?_⟩
  next =>
    intro line
    rw [render, first.rendered, second.rendered]
    simp [enclosed, bind, Except.bind, pure, Except.pure, String.append_assoc]
  next =>
    have closes : Closes (' ' :: (op.symbol.toList ++ [' '])) := ⟨' ', _, rfl, by decide⟩
    have joined := first.readsAs.joined second.readsAs rfl closes fun _ => Lexes.spaced op
    simpa using joined
  next =>
    rw [Expr.levels, Expr.onSurface]
    by_cases assigns : op = .assign
    next =>
      obtain ⟨name, rfl⟩ := Expr.exists_of_isIdentifier (target assigns)
      rw [assigns]
      exact .assign rfl first.needs second.needs.expression
    next =>
      have isSign : (op.token line).is .operator op.symbol := by
        rw [BinaryOp.token, if_neg assigns]
        exact Token.is_ofLexeme ..
      exact .binary assigns isSign first.needs second.needs

structure BareAll (line : Nat) (es : List Expr) (texts : List String) (tokens : List Token) :
    Prop where
  rendered : ∀ line, renderAll line es = .ok texts
  readsAs : ReadsAs line (commaSeparated texts).toList tokens
  needs : Needs Expressions (Expr.levelsAll es) tokens (Expr.onSurfaceAll es)

theorem renderAll_cons {place : Nat} {e : Expr} {es : List Expr} {texts : List String}
    (first : render place e = .ok (enclosed e text)) (later : renderAll place es = .ok texts) :
    renderAll place (e :: es) = .ok (text :: texts) := by
  rw [renderAll, first, later]
  exact congrArg (fun alone => Except.ok (alone :: texts)) (bare_enclosed e text)

theorem BareAll.one {e : Expr} (only : Bare line e text tokens) :
    BareAll line [e] [text] tokens := by
  refine ⟨?_, ?_, ?_⟩
  next =>
    intro line
    exact renderAll_cons (only.rendered line) rfl
  next => simpa [commaSeparated] using only.readsAs
  next =>
    rw [Expr.levelsAll, Expr.levelsAll, Nat.max_zero]
    exact only.needs.one

theorem commaSeparated_cons {texts : List String} (front : Fronts (commaSeparated texts).toList) :
    (commaSeparated (text :: texts)).toList =
      text.toList ++ [',', ' '] ++ (commaSeparated texts).toList := by
  cases texts with
  | nil =>
    obtain ⟨c, cs, nonempty, _⟩ := front
    cases nonempty
  | cons next texts => simp [commaSeparated]

theorem BareAll.more {e : Expr} {es : List Expr} {texts : List String}
    (first : Bare line e text tokens) (later : BareAll line es texts others) :
    BareAll line (e :: es) (text :: texts) (tokens ++ .ofLexeme .delimiter "," line :: others) := by
  refine ⟨?_, ?_, ?_⟩
  next =>
    intro line
    exact renderAll_cons (first.rendered line) (later.rendered line)
  next =>
    -- There is a comma only because another text follows.
    rw [commaSeparated_cons later.readsAs.front]
    have closes : Closes [',', ' '] := ⟨',', [' '], rfl, by decide⟩
    exact first.readsAs.joined later.readsAs rfl closes fun _ => Lexes.comma
  next => exact Needs.more rfl first.needs later.needs

theorem render_call {place : Nat} {callee : String} {arguments : List Expr} {texts : List String}
    (plain : (Catalogue.drawFunction? callee).isNone)
    (all : renderAll place arguments = .ok texts) :
    render place (.call callee arguments) = .ok (callee ++ "(" ++ commaSeparated texts ++ ")") := by
  rw [render, Option.isNone_iff_eq_none.mp plain, all]
  rfl

theorem Enclosed.call {callee : String} {arguments : List Expr} (isName : IsName callee)
    (plain : (Catalogue.drawFunction? callee).isNone) {texts : List String}
    (all : BareAll line arguments texts tokens) :
    Enclosed line (.call callee arguments) (callee ++ "(" ++ commaSeparated texts ++ ")")
      (.ofLexeme .identifier callee line :: (.ofLexeme .delimiter "(" line :: tokens ++
        [.ofLexeme .delimiter ")" line])) := by
  refine ⟨?_, ?_, ?_⟩
  next =>
    intro line
    exact render_call plain (all.rendered line)
  next =>
    have inside := all.readsAs.parenthesized
    simpa using ReadsAs.called isName inside.reads inside.sameLine
  next =>
    have named := Token.is_ofLexeme .identifier callee line
    exact Operand.Needs.call named rfl rfl all.needs

theorem Enclosed.callNothing {callee : String} (isName : IsName callee)
    (plain : (Catalogue.drawFunction? callee).isNone) :
    Enclosed line (.call callee []) (callee ++ "()")
      [.ofLexeme .identifier callee line, .ofLexeme .delimiter "(" line,
        .ofLexeme .delimiter ")" line] := by
  refine ⟨?_, ?_, ?_⟩
  next =>
    intro line
    rw [render_call plain rfl]
    simp [commaSeparated, String.append_assoc]
  next =>
    have spelled : (callee ++ "()").toList = callee.toList ++ ['(', ')'] := by simp
    rw [spelled]
    apply ReadsAs.called isName
    next =>
      intro rest _
      have nothing : Lexes line [] [] (')' :: rest) := .nil
      exact Lexes.parenthesized nothing
    next => simp [Token.ofLexeme]
  next =>
    have named := Token.is_ofLexeme .identifier callee line
    exact Operand.Needs.callNothing named rfl rfl

end Trees

structure Legible (line : Nat) (e : Expr) : Prop where
  alone : ∃ text tokens, Bare line e text tokens
  inside : ∃ text tokens, Enclosed line e text tokens

theorem Enclosed.legible {line : Nat} {e : Expr} {text : String} {tokens : List Token}
    (whole : Enclosed line e text tokens) (same : e.wraps = 0) : Legible line e :=
  ⟨⟨text, tokens, whole.bare same⟩, ⟨text, tokens, whole⟩⟩

mutual
theorem legible (line : Nat) :
    ∀ e : Expr, (∀ x ∈ e.parts, x.Writable) → Legible line e
  | .identifier name => by
    intro writable
    exact (Enclosed.identifier (writable _ List.mem_cons_self)).legible rfl
  | .number n => by
    intro writable
    have atTop := writable _ List.mem_cons_self
    cases n with
    | float x => exact atTop.elim
    | int n =>
      obtain ⟨natural, bound⟩ := atTop
      obtain ⟨k, rfl⟩ := Int.eq_ofNat_of_zero_le natural
      exact (Enclosed.number (by omega)).legible rfl
  | .string contents => by
    intro writable
    obtain ⟨quoteless, oneLine⟩ := writable _ List.mem_cons_self
    exact (Enclosed.string quoteless oneLine).legible rfl
  | .boolean b => by
    intro _
    exact (Enclosed.boolean b).legible rfl
  -- Operands are written as parts of the operation, arguments as if they stood alone.
  | .unary op operand => by
    intro writable
    obtain ⟨_, inside⟩ := List.forall_mem_cons.mp writable
    obtain ⟨text, tokens, inner⟩ := (legible line operand inside).inside
    exact (inner.unary op).legible rfl
  | .binary op left right => by
    intro writable
    obtain ⟨atTop, inside⟩ := List.forall_mem_cons.mp writable
    obtain ⟨lefts, rights⟩ := List.forall_mem_append.mp inside
    obtain ⟨text, tokens, first⟩ := (legible line left lefts).inside
    obtain ⟨other, others, second⟩ := (legible line right rights).inside
    have whole := Bare.binary op first second atTop
    exact ⟨⟨_, _, whole⟩, ⟨_, _, whole.parenthesized⟩⟩
  | .call callee arguments => by
    intro writable
    obtain ⟨⟨isName, plain⟩, inside⟩ := List.forall_mem_cons.mp writable
    by_cases nothing : arguments = []
    next =>
      rw [nothing]
      exact (Enclosed.callNothing isName plain).legible rfl
    next =>
      obtain ⟨texts, tokens, all⟩ := legibleAll line arguments nothing inside
      exact (Enclosed.call isName plain all).legible rfl

theorem legibleAll (line : Nat) :
    ∀ es : List Expr, es ≠ [] → (∀ x ∈ Expr.partsAll es, x.Writable) →
      ∃ texts tokens, BareAll line es texts tokens
  | [] => fun nonempty => absurd rfl nonempty
  | e :: es => by
    intro _ writable
    obtain ⟨firsts, laters⟩ := List.forall_mem_append.mp writable
    obtain ⟨text, tokens, first⟩ := (legible line e firsts).alone
    by_cases last : es = []
    next =>
      rw [last]
      exact ⟨_, _, .one first⟩
    next =>
      obtain ⟨texts, others, later⟩ := legibleAll line es last laters
      exact ⟨_, _, .more first later⟩
end

theorem Bare.renderBare {line place : Nat} {e : Expr} {text : String} {tokens : List Token}
    (whole : Bare line e text tokens) : renderBare place e = .ok text := by
  rw [Code.renderBare, whole.rendered]
  exact congrArg Except.ok (bare_enclosed e text)

theorem parse_renderBare (line : Nat) (e : Expr) (writable : ∀ x ∈ e.parts, x.Writable) :
    ∃ text, renderBare line e = .ok text ∧
      (tokenize (text ++ ";")).errors = [] ∧
      (parse (tokenize (text ++ ";")).tokens = ⟨[.expression e.onSurface 1], []⟩ ↔
        e.levels ≤ maxNesting) ∧
      (∀ op left right, e = .binary op left right → render line e = .ok ("(" ++ text ++ ")")) ∧
      Balanced (tokenize (text ++ ";")).tokens := by
  obtain ⟨text, tokens, whole⟩ := (legible 1 e writable).alone
  refine ⟨text, whole.renderBare, ?_⟩
  rw [whole.readsAs.tokenize]
  refine ⟨rfl, ⟨?_, ?_⟩, ?_, ?_⟩
  next =>
    -- What was parsed is spelled in the room of a script, so the room is not less than needed.
    intro parsed
    exact whole.needs.le_of_expression (expression_of_script (script_of_parseWithin parsed))
  next =>
    intro shallow
    apply parse_of_script
    exact script_of_expression (whole.needs.enough _ shallow) rfl whole.readsAs.sameLine
  next =>
    rintro op left right rfl
    exact whole.rendered line
  next => exact (whole.needs.enough _ (Nat.le_refl _)).balanced.append (.single (.inl rfl))

theorem parse_renderBare_assignment :
    renderBare 1 (.binary .assign (.identifier "x") (.binary .subtract (.number (.int 1))
        (.unary .minus (.call "f" [.identifier "CANVAS_WIDTH", .string "a, b"])))) =
      .ok "x = (1 - (-f(SCREEN_WIDTH, \"a, b\")))" ∧
    parse (tokenize ("x = (1 - (-f(SCREEN_WIDTH, \"a, b\")))" ++ ";")).tokens =
      ⟨[.expression (.binary .assign (.identifier "x") (.binary .subtract (.number (.int 1))
        (.unary .minus (.call "f" [.identifier "SCREEN_WIDTH", .string "a, b"])))) 1], []⟩ := by
  obtain ⟨text, rendered, _, parsed, _⟩ := parse_renderBare 1
    (.binary .assign (.identifier "x") (.binary .subtract (.number (.int 1))
      (.unary .minus (.call "f" [.identifier "CANVAS_WIDTH", .string "a, b"])))) (by decide)
  have same : text = "x = (1 - (-f(SCREEN_WIDTH, \"a, b\")))" :=
    Except.ok.inj (rendered.symm.trans rfl)
  rw [same] at rendered parsed
  exact ⟨rendered, parsed.mpr (by decide)⟩

end Code

end DrawScript
