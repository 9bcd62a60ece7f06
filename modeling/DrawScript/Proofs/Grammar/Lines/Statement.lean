import DrawScript.Proofs.Grammar.Mending

set_option autoImplicit false

namespace DrawScript.Grammar

/-- Tokens on these lines stand among the tokens, in this order. -/
def Spans (tokens : List Token) (lines : List Nat) : Prop := lines.Sublist (tokens.map Token.line)

namespace Spans

variable {tokens others : List Token} {lines later : List Nat}

theorem nil : Spans tokens [] := List.nil_sublist _

theorem cons (spans : Spans tokens lines) (token : Token) :
    Spans (token :: tokens) (token.line :: lines) :=
  List.Sublist.cons_cons _ spans

theorem skip (spans : Spans tokens lines) (token : Token) : Spans (token :: tokens) lines :=
  List.Sublist.cons _ spans

theorem append (spans : Spans tokens lines) (behind : Spans others later) :
    Spans (tokens ++ others) (lines ++ later) := by
  rw [Spans, List.map_append]
  exact List.Sublist.append spans behind

theorem before (spans : Spans tokens lines) (others : List Token) :
    Spans (tokens ++ others) lines := by
  rw [← List.append_nil lines]
  exact spans.append nil

theorem behind (spans : Spans tokens lines) (others : List Token) :
    Spans (others ++ tokens) lines :=
  nil.append spans

end Spans

section

variable {expression : Spelling Expr} {tokens : List Token} {s : Statement}

theorem VarDeclaration.spans (declared : VarDeclaration expression tokens s) :
    Spans tokens s.lines := by
  obtain ⟨_, _, _, _, _⟩ := declared
  exact Spans.nil.cons _

theorem ForInitial.spans {initial : Option Statement}
    (starts : ForInitial expression tokens initial) :
    Spans tokens (Statement.linesInitial initial) := by
  cases starts with
  | none => exact .nil
  | var declared => exact declared.spans
  | expression => exact Spans.nil.cons _

variable {block : Spelling (Block Statement)}
  (blocks : ∀ tokens body, block tokens body → Spans tokens (Statement.linesBlock body))

include blocks

theorem IfElse.spans (chain : IfElse expression block tokens s) : Spans tokens s.lines := by
  induction chain with
  | @plain keyword tests _ _ _ _ _ first =>
    have whole := ((blocks _ _ first).behind tests).cons keyword
    simpa [Statement.lines, Statement.linesOtherwise] using whole
  | @otherwise keyword separator tests _ _ _ _ _ _ _ first _ second =>
    have front := ((blocks _ _ first).behind tests).cons keyword
    exact front.append ((blocks _ _ second).skip separator)
  | @elseIf keyword separator tests _ _ _ _ link _ _ first _ _ ih =>
    -- The nested statement stands in a block of its own, on the line of `else`.
    have front := ((blocks _ _ first).behind tests).cons keyword
    have whole := front.append (ih.cons separator)
    simpa [Statement.lines, Statement.linesOtherwise, Statement.linesBlock, Statement.linesAll]
      using whole

theorem StatementForm.spans (form : StatementForm expression block tokens s) :
    Spans tokens s.lines := by
  cases form with
  | var declared _ => exact declared.spans.before _
  | ifElse chain => exact chain.spans blocks
  | @forLoop keyword opening stop second closing initials conditions increments bodies _ _ _ _
      _ _ starts _ _ _ _ _ repeated =>
    have front := (starts.spans.skip opening).cons keyword
    exact ((front.before (stop :: conditions)).before (second :: increments)).append
      ((blocks _ _ repeated).skip closing)
  | @whileLoop keyword tests _ _ _ _ _ repeated =>
    exact ((blocks _ _ repeated).behind tests).cons keyword
  | @doWhile keyword separator stop bodies tests _ _ _ repeated _ _ _ =>
    exact (((blocks _ _ repeated).cons keyword).before (separator :: tests)).before [stop]
  | @function keyword name items _ _ _ _ _ _ run =>
    exact (((blocks _ _ run).behind items).skip name).cons keyword
  | @animate keyword opening comma closing firsts seconds _ _ _ _ _ _ _ _ _ _ repeated =>
    have body := (blocks _ _ repeated).skip closing
    exact (body.behind (opening :: firsts ++ comma :: seconds)).cons keyword
  | block inner => exact blocks _ _ inner
  | cursor | returnValue | copy | method | expression | empty => exact Spans.nil.cons _

end

theorem Mended.spans {gaps : Prop} {item : Spelling Statement} {tokens : List Token}
    {ss : List Statement} (items : ∀ tokens s, item tokens s → Spans tokens s.lines)
    (mended : Mended gaps item tokens ss) : Spans tokens (Statement.linesAll ss) := by
  induction mended with
  | nil => exact .nil
  | cons first _ ih => exact (items _ _ first).append ih
  | skip _ _ ih => exact ih.behind _

theorem MendedBlock.spans (room : Nat) :
    ∀ tokens body, MendedBlock room tokens body → Spans tokens (Statement.linesBlock body) := by
  induction room with
  | zero => exact fun _ _ impossible => impossible.elim
  | succ room ih =>
    rintro _ _ ⟨_, inner, _⟩
    have inside := inner.spans fun _ _ form => form.spans ih
    exact (inside.before _).cons _

end DrawScript.Grammar
