import DrawScript.Proofs.Token.Shapes
import DrawScript.Script.Expression

set_option autoImplicit false

namespace DrawScript

open Piece Text

def Closes (rest : List Char) : Prop := ∃ c cs, rest = c :: cs ∧ c ∈ [' ', ')', ',', ';']

def Fronts (text : List Char) : Prop :=
  ∃ c cs, text = c :: cs ∧ c ∉ [' ', '\t', '\r', '=', '/', '*']

theorem Closes.ends {rest : List Char} (closes : Closes rest) {kind : Char → Bool}
    (other : [' ', ')', ',', ';'].all (!kind ·)) : Ends kind rest := by
  obtain ⟨c, cs, rfl, member⟩ := closes
  rintro x ⟨⟩
  simpa using List.all_eq_true.mp other c member

theorem Closes.append {text : List Char} (closes : Closes text) (more : List Char) :
    Closes (text ++ more) := by
  obtain ⟨c, cs, rfl, member⟩ := closes
  exact ⟨c, cs ++ more, rfl, member⟩

namespace Fronts

variable {text : List Char}

theorem append (front : Fronts text) (more : List Char) : Fronts (text ++ more) := by
  obtain ⟨c, cs, rfl, other⟩ := front
  exact ⟨c, cs ++ more, rfl, other⟩

theorem ends (front : Fronts text) {kind : Char → Bool}
    (inside : ∀ c, kind c → c ∈ [' ', '\t', '\r', '=', '/', '*']) : Ends kind text := by
  obtain ⟨c, cs, rfl, other⟩ := front
  rintro x ⟨⟩
  exact Bool.eq_false_iff.mpr fun isKind => other (inside c isKind)

theorem ends_blank (front : Fronts text) : Ends isBlank text := by
  apply front.ends
  intro c blank
  simp only [isBlank, Bool.or_eq_true, decide_eq_true_eq] at blank
  grind

theorem ends_sign (front : Fronts text) : Ends (['=', '/', '*'].contains ·) text := by
  apply front.ends
  intro c sign
  simp only [List.contains_eq_mem, decide_eq_true_eq] at sign
  grind

theorem name {name : String} (isName : IsName name) : Fronts name.toList := by
  obtain ⟨c, text, spelled, starts, _⟩ := isName.word
  have other : [' ', '\t', '\r', '=', '/', '*'].all (!startsWord ·) := by decide
  refine ⟨c, text, spelled, ?_⟩
  intro member
  simpa [starts] using List.all_eq_true.mp other c member

theorem digits (n : Nat) : Fronts (Nat.toDigits 10 n) := by
  have other : [' ', '\t', '\r', '=', '/', '*'].all (!Char.isDigit ·) := by decide
  have inside : ∀ c ∈ Nat.toDigits 10 n, c.isDigit :=
    fun c member => Nat.isDigit_of_mem_toDigits (by decide) (by decide) member
  cases spelled : Nat.toDigits 10 n with
  | nil => exact absurd spelled Nat.toDigits_ne_nil
  | cons c cs =>
    have digit : c.isDigit := inside c (by simp [spelled])
    refine ⟨c, cs, rfl, ?_⟩
    intro member
    simpa [digit] using List.all_eq_true.mp other c member

end Fronts

def BinaryOp.token (op : BinaryOp) (line : Nat) : Token :=
  .ofLexeme (if op = .assign then .assign else .operator) op.symbol line

namespace Lexes

variable {line : Nat} {text rest : List Char} {tokens : List Token}

theorem parenthesized (inside : Lexes line text tokens (')' :: rest)) :
    Lexes line ('(' :: text ++ [')'])
      (.ofLexeme .delimiter "(" line :: tokens ++ [.ofLexeme .delimiter ")" line]) rest := by
  have closing : Lexes line [')'] [.ofLexeme .delimiter ")" line] rest :=
    Lexes.delimiter (by decide)
  have opening : Lexes line ['('] [.ofLexeme .delimiter "(" line] (text ++ [')'] ++ rest) :=
    Lexes.delimiter (by decide)
  exact opening.append (Lexes.append inside closing)

theorem comma (front : Fronts rest) :
    Lexes line [',', ' '] [.ofLexeme .delimiter "," line] rest := by
  have comma : Lexes line [','] [.ofLexeme .delimiter "," line] ([' '] ++ rest) :=
    Lexes.delimiter (by decide)
  exact comma.append (Lexes.blank front.ends_blank)

theorem spaced (op : BinaryOp) (front : Fronts rest) :
    Lexes line (' ' :: (op.symbol.toList ++ [' '])) [op.token line] rest := by
  -- The blanks keep the operator from running into its operands.
  have solid : Ends isBlank (op.symbol.toList ++ [' '] ++ rest) := by
    cases op <;> (rintro c ⟨⟩; rfl)
  have symbol : Lexes line op.symbol.toList [op.token line] ([' '] ++ rest) := by
    by_cases assigns : op = .assign
    next =>
      rw [assigns]
      apply Lexes.assign
      rintro c ⟨⟩
      rfl
    next =>
      rw [BinaryOp.token, if_neg assigns]
      apply Lexes.operator
      next =>
        cases op with
        | assign => exact absurd rfl assigns
        | _ => decide
      next =>
        rintro c ⟨⟩
        rfl
  have blank : Lexes line [' '] [] (op.symbol.toList ++ [' '] ++ rest) := Lexes.blank solid
  exact blank.append (symbol.append (Lexes.blank front.ends_blank))

end Lexes

/-- Wherever an expression may end, the text is read as these tokens, all on one line. -/
structure ReadsAs (line : Nat) (text : List Char) (tokens : List Token) : Prop where
  front : Fronts text
  reads : ∀ rest, Closes rest → Lexes line text tokens rest
  sameLine : ∀ token ∈ tokens, token.line = line

namespace ReadsAs

variable {line : Nat} {text other : List Char} {tokens others : List Token}

theorem single {token : Token} (front : Fronts text) (sameLine : token.line = line)
    (reads : ∀ rest, Closes rest → Lexes line text [token] rest) : ReadsAs line text [token] :=
  ⟨front, reads, List.forall_mem_singleton.mpr sameLine⟩

theorem name {name : String} (isName : IsName name) :
    ReadsAs line name.toList [.ofLexeme .identifier name line] := by
  apply single
  next => exact Fronts.name isName
  next => rfl
  next =>
    intro rest closes
    exact Lexes.name isName (closes.ends (by decide))

theorem integer {n : Nat} (bound : n ≤ 1 <<< 53) :
    ReadsAs line (Nat.toDigits 10 n) [⟨.number, .number (.int n), line⟩] := by
  apply single
  next => exact Fronts.digits n
  next => rfl
  next =>
    intro rest closes
    exact Lexes.integer bound (closes.ends (by decide))

theorem string {contents : String} (quoteless : '"' ∉ contents.toList)
    (oneLine : '\n' ∉ contents.toList) :
    ReadsAs line ('"' :: (contents.toList ++ ['"'])) [⟨.string, .string contents, line⟩] := by
  apply single
  next => exact ⟨'"', contents.toList ++ ['"'], rfl, by decide⟩
  next => rfl
  next =>
    intro rest _
    exact Lexes.string quoteless oneLine

theorem boolean (b : Bool) :
    ReadsAs line (if b then "true" else "false").toList [⟨.boolean, .boolean b, line⟩] := by
  apply single
  next =>
    cases b with
    | true => exact ⟨'t', "rue".toList, rfl, by decide⟩
    | false => exact ⟨'f', "alse".toList, rfl, by decide⟩
  next => rfl
  next =>
    intro rest closes
    exact Lexes.boolean b (closes.ends (by decide))

theorem parenthesized (readsAs : ReadsAs line text tokens) :
    ReadsAs line ('(' :: text ++ [')'])
      (.ofLexeme .delimiter "(" line :: tokens ++ [.ofLexeme .delimiter ")" line]) := by
  refine ⟨⟨'(', text ++ [')'], rfl, by decide⟩, ?_, ?_⟩
  next =>
    intro rest _
    exact Lexes.parenthesized (readsAs.reads (')' :: rest) ⟨')', rest, rfl, by decide⟩)
  next =>
    rw [List.forall_mem_append]
    exact ⟨List.forall_mem_cons.mpr ⟨rfl, readsAs.sameLine⟩, List.forall_mem_singleton.mpr rfl⟩

theorem signed (op : UnaryOp) (readsAs : ReadsAs line text tokens) :
    ReadsAs line (op.symbol.toList ++ text) (.ofLexeme .operator op.symbol line :: tokens) := by
  refine ⟨?_, ?_, List.forall_mem_cons.mpr ⟨rfl, readsAs.sameLine⟩⟩
  next => cases op <;> exact ⟨_, _, rfl, by decide⟩
  next =>
    intro rest closes
    have member : op.symbol.toList ∈ operators := by cases op <;> decide
    have sign : Lexes line op.symbol.toList [.ofLexeme .operator op.symbol line] (text ++ rest) :=
      Lexes.operator member (readsAs.front.append rest).ends_sign
    exact sign.append (readsAs.reads rest closes)

theorem joined {sign : Token} {separator : List Char} (before : ReadsAs line text tokens)
    (later : ReadsAs line other others) (sameLine : sign.line = line) (closes : Closes separator)
    (reads : ∀ rest, Fronts rest → Lexes line separator [sign] rest) :
    ReadsAs line (text ++ separator ++ other) (tokens ++ sign :: others) := by
  rw [List.append_assoc]
  refine ⟨before.front.append _, ?_, ?_⟩
  next =>
    intro rest ending
    have first := before.reads (separator ++ other ++ rest) ((closes.append other).append rest)
    have middle := reads (other ++ rest) (later.front.append rest)
    exact first.append (middle.append (later.reads rest ending))
  next =>
    rw [List.forall_mem_append]
    exact ⟨before.sameLine, List.forall_mem_cons.mpr ⟨sameLine, later.sameLine⟩⟩

theorem called {name : String} (isName : IsName name)
    (reads : ∀ rest, Closes rest → Lexes line ('(' :: text) tokens rest)
    (sameLine : ∀ token ∈ tokens, token.line = line) :
    ReadsAs line (name.toList ++ '(' :: text) (.ofLexeme .identifier name line :: tokens) := by
  -- The parenthesis ends the name.
  refine ⟨(Fronts.name isName).append _, ?_, List.forall_mem_cons.mpr ⟨rfl, sameLine⟩⟩
  intro rest closes
  have named : Lexes line name.toList [.ofLexeme .identifier name line] ('(' :: text ++ rest) := by
    apply Lexes.name isName
    rintro c ⟨⟩
    decide
  exact named.append (reads rest closes)

theorem tokenize {text : String} (readsAs : ReadsAs 1 text.toList tokens) :
    tokenize (text ++ ";") = ⟨tokens ++ [.ofLexeme .delimiter ";" 1], []⟩ := by
  have stop : Lexes 1 [';'] [.ofLexeme .delimiter ";" 1] [] := Lexes.delimiter (by decide)
  have all := (readsAs.reads ([';'] ++ []) ⟨';', [], rfl, by decide⟩).append stop
  have spelled : (text ++ ";").toList = text.toList ++ [';'] ++ [] := by simp
  rw [DrawScript.tokenize, spelled, all.reading]
  exact congrArg (Reading.mk · []) (List.append_nil _)

end ReadsAs

end DrawScript
