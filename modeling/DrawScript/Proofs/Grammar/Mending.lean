import DrawScript.Proofs.Grammar.Derivation
import DrawScript.Proofs.Script.Walk

set_option autoImplicit false

namespace DrawScript.Grammar

/-- Items one after another, and between them, where gaps are allowed, tokens that belong to
none. -/
inductive Mended {α : Type} (gaps : Prop) (item : Spelling α) : Spelling (List α)
  | nil : Mended gaps item [] []
  | cons {tokens others : List Token} {value : α} {values : List α}
      (first : item tokens value) (later : Mended gaps item others values) :
      Mended gaps item (tokens ++ others) (value :: values)
  | skip {dropped others : List Token} {values : List α} (allowed : gaps)
      (later : Mended gaps item others values) : Mended gaps item (dropped ++ others) values

section

variable {α : Type} {gaps : Prop} {item : Spelling α} {tokens : List Token} {values : List α}

theorem Mended.sequence (mended : Mended False item tokens values) :
    Sequence item tokens values := by
  induction mended with
  | nil => exact .nil
  | cons first _ ih => exact .cons first ih
  | skip impossible => exact impossible.elim

theorem Mended.dropped (allowed : gaps) (tokens : List Token) : Mended gaps item tokens [] := by
  rw [← List.append_nil tokens]
  exact .skip allowed .nil

end

inductive MendedBraces (statement : Spelling Statement) : Spelling (Block Statement)
  | braces {opening closing : Token} {tokens : List Token} {statements : List Statement}
      (opens : opening.is .delimiter "\x7b") (inner : Mended True statement tokens statements)
      (closes : closing.is .delimiter "\x7d") :
      MendedBraces statement (opening :: tokens ++ [closing]) ⟨statements, opening.line⟩

-- What is left of a block once the statements in it that were rejected are gone.
def MendedBlock : (room : Nat) → Spelling (Block Statement)
  | 0 => fun _ _ => False
  | room + 1 => MendedBraces (StatementForm (Expression room) (MendedBlock room))

def MendedStatement (room : Nat) : Spelling Statement :=
  StatementForm (Expression room) (MendedBlock room)

section

variable {expression : Spelling Expr} {block other : Spelling (Block Statement)}
  (wider : ∀ tokens body, block tokens body → other tokens body) {tokens : List Token}
  {s : Statement}

include wider

theorem IfElse.mono (chain : IfElse expression block tokens s) :
    IfElse expression other tokens s := by
  induction chain with
  | plain isIf tested first => exact .plain isIf tested (wider _ _ first)
  | otherwise isIf tested first isElse second =>
    exact .otherwise isIf tested (wider _ _ first) isElse (wider _ _ second)
  | elseIf isIf tested first isElse _ ih => exact .elseIf isIf tested (wider _ _ first) isElse ih

theorem StatementForm.mono (form : StatementForm expression block tokens s) :
    StatementForm expression other tokens s := by
  cases form with
  | var declared stops => exact .var declared stops
  | cursor isCursor named isSign isAgain items stops =>
    exact .cursor isCursor named isSign isAgain items stops
  | ifElse chain => exact .ifElse (chain.mono wider)
  | forLoop isFor opens starts stops tested stopsAgain stepped closes repeated =>
    exact .forLoop isFor opens starts stops tested stopsAgain stepped closes (wider _ _ repeated)
  | whileLoop isWhile tested repeated => exact .whileLoop isWhile tested (wider _ _ repeated)
  | doWhile isDo repeated isWhile tested stops =>
    exact .doWhile isDo (wider _ _ repeated) isWhile tested stops
  | function isFunction named items run =>
    exact .function isFunction named items (wider _ _ run)
  | returnValue isReturn result stops => exact .returnValue isReturn result stops
  | copy isCopy taken four isTo put two stops => exact .copy isCopy taken four isTo put two stops
  | animate isAnimate opens left isComma right closes repeated =>
    exact .animate isAnimate opens left isComma right closes (wider _ _ repeated)
  | method isCursor isPoint named items stops => exact .method isCursor isPoint named items stops
  | block inner => exact .block (wider _ _ inner)
  | expression plain stops => exact .expression plain stops
  | empty stops => exact .empty stops

end

/-- Some of the tokens, one behind the other, spell the statement, whatever stands in its blocks.
The one in the head of a loop has no semicolon. -/
def Found (tokens : List Token) (s : Statement) : Prop :=
  ∃ room own, own <:+: tokens ∧
    (StatementForm (Expression room) (fun _ _ => True) own s ∨
      ForInitial (Expression room) own (some s))

section

variable {room : Nat} {tokens part : List Token} {s x : Statement}
  {block : Spelling (Block Statement)}

theorem Found.within (found : Found part x) (within : part <:+: tokens) : Found tokens x := by
  obtain ⟨room, own, inside, form⟩ := found
  exact ⟨room, own, inside.trans within, form⟩

theorem StatementForm.found (form : StatementForm (Expression room) block tokens s) :
    Found tokens s :=
  ⟨room, tokens, List.infix_rfl, .inl (form.mono fun _ _ _ => trivial)⟩

theorem ForInitial.found {initial : Option Statement}
    (starts : ForInitial (Expression room) tokens initial) :
    ∀ x ∈ Statement.walkInitial initial, Found tokens x := by
  cases initial with
  | none => exact fun x member => absurd member List.not_mem_nil
  | some s =>
    have simple : s.inner = [] := by
      cases starts with
      | var declared =>
        cases declared
        rfl
      | expression => rfl
    exact Statement.forall_walk_simple simple ⟨room, tokens, List.infix_rfl, .inr starts⟩

variable (blocks : ∀ tokens body, block tokens body →
    ∀ x ∈ Statement.walkBlock body, Found tokens x)

include blocks

theorem IfElse.foundInside (chain : IfElse (Expression room) block tokens s) :
    ∀ x ∈ s.inner, Found tokens x := by
  induction chain with
  | @plain keyword tests thens _ _ _ _ first =>
    refine List.forall_mem_append.mpr ⟨fun x member => ?_, fun x member => by cases member⟩
    exact (blocks _ _ first x member).within ⟨keyword :: tests, [], by simp⟩
  | @otherwise keyword separator tests thens others _ _ _ _ _ first _ second =>
    refine List.forall_mem_append.mpr ⟨fun x member => ?_, fun x member => ?_⟩
    next =>
      exact (blocks _ _ first x member).within ⟨keyword :: tests, separator :: others, by simp⟩
    next =>
      exact (blocks _ _ second x member).within
        ⟨keyword :: tests ++ thens ++ [separator], [], by simp⟩
  | @elseIf keyword separator tests thens others _ _ link _ _ first _ second ih =>
    refine List.forall_mem_append.mpr ⟨fun x member => ?_, fun x member => ?_⟩
    next =>
      exact (blocks _ _ first x member).within ⟨keyword :: tests, separator :: others, by simp⟩
    next =>
      have behind : others <:+: keyword :: tests ++ thens ++ separator :: others :=
        ⟨keyword :: tests ++ thens ++ [separator], [], by simp⟩
      rcases List.mem_cons.mp member with rfl | inside
      next => exact (StatementForm.ifElse second).found.within behind
      next =>
        have inner : x ∈ link.inner := by simpa [Statement.walkAll] using inside
        exact (ih x inner).within behind

theorem StatementForm.foundAll (form : StatementForm (Expression room) block tokens s) :
    ∀ x ∈ s.walk, Found tokens x := by
  refine List.forall_mem_cons.mpr ⟨form.found, ?_⟩
  cases form with
  | ifElse chain => exact chain.foundInside blocks
  | @forLoop keyword opening stop second closing initials conditions increments bodies _ _ _ _
      _ _ starts _ _ _ _ _ repeated =>
    refine List.forall_mem_append.mpr ⟨fun x member => ?_, fun x member => ?_⟩
    next =>
      refine (starts.found x member).within ⟨[keyword, opening], stop :: conditions ++ second ::
        increments ++ closing :: bodies, by simp⟩
    next =>
      exact (blocks _ _ repeated x member).within ⟨keyword :: opening :: initials ++
        stop :: conditions ++ second :: increments ++ [closing], [], by simp⟩
  | @whileLoop keyword tests bodies _ _ _ _ repeated =>
    intro x member
    exact (blocks _ _ repeated x member).within ⟨keyword :: tests, [], by simp⟩
  | @doWhile keyword separator stop bodies tests _ _ _ repeated _ _ _ =>
    intro x member
    exact (blocks _ _ repeated x member).within
      ⟨[keyword], separator :: tests ++ [stop], by simp⟩
  | @function keyword name items bodies _ _ _ _ _ run =>
    intro x member
    exact (blocks _ _ run x member).within ⟨keyword :: name :: items, [], by simp⟩
  | @animate keyword opening comma closing firsts seconds bodies _ _ _ _ _ _ _ _ _ repeated =>
    intro x member
    exact (blocks _ _ repeated x member).within
      ⟨keyword :: opening :: firsts ++ comma :: seconds ++ [closing], [], by simp⟩
  | block inner => exact blocks _ _ inner
  | var declared =>
    cases declared
    exact fun x member => absurd member List.not_mem_nil
  | cursor | returnValue | copy | method | expression | empty =>
    exact fun x member => absurd member List.not_mem_nil

omit blocks

theorem Mended.foundAll {gaps : Prop} {item : Spelling Statement} {ss : List Statement}
    (items : ∀ tokens s, item tokens s → ∀ x ∈ s.walk, Found tokens x)
    (mended : Mended gaps item tokens ss) : ∀ x ∈ Statement.walkAll ss, Found tokens x := by
  induction mended with
  | nil => exact fun x member => absurd member List.not_mem_nil
  | cons first _ ih =>
    refine List.forall_mem_append.mpr ⟨fun x member => ?_, fun x member => ?_⟩
    next => exact (items _ _ first x member).within (List.prefix_append _ _).isInfix
    next => exact (ih x member).within (List.suffix_append _ _).isInfix
  | skip _ _ ih => exact fun x member => (ih x member).within (List.suffix_append _ _).isInfix

theorem MendedBlock.foundAll (room : Nat) :
    ∀ tokens body, MendedBlock room tokens body →
      ∀ x ∈ Statement.walkBlock body, Found tokens x := by
  induction room with
  | zero => exact fun _ _ impossible => impossible.elim
  | succ room ih =>
    rintro _ _ ⟨opens, inner, closes⟩ x member
    have found := inner.foundAll (fun _ _ form => form.foundAll ih) x member
    exact found.within ⟨[_], [_], rfl⟩

end

end DrawScript.Grammar
