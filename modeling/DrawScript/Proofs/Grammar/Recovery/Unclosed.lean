import DrawScript.Proofs.Grammar.Completeness.Program
import DrawScript.Proofs.Grammar.Recovery.Braces
import DrawScript.Proofs.Grammar.Recovery.Program

set_option autoImplicit false

namespace DrawScript.Grammar

theorem dropCount_clear (moved : Bool) (tokens : List Token) :
    ∀ token ∈ tokens.take (dropCount moved tokens), ¬token.is .delimiter "\x7d" := by
  induction tokens generalizing moved with
  | nil => simp [dropCount]
  | cons token rest ih =>
    simp only [dropCount]
    split
    next stops => simp [Token.is_of_is stops]
    next =>
      split
      next => simp
      next other =>
        split
        next => simp
        next =>
          rw [List.take_succ_cons]
          exact List.forall_mem_cons.mpr ⟨other, ih true⟩

namespace State.Climbs

variable {s t : State}

theorem skip (s : State) (count : Nat)
    (clear : ∀ token ∈ s.rest.take count, ¬token.is .delimiter "\x7d") :
    s.Climbs 0 0 (s.skip count) := by
  induction count generalizing s with
  | zero => exact refl s
  | succ count ih =>
    cases front : s.rest with
    | nil =>
      have same : s.next = s := by simp [State.next, front]
      rw [State.skip, same]
      exact ih s (by simp [front])
    | cons token rest =>
      rw [front, List.take_succ_cons] at clear
      obtain ⟨here, later⟩ := List.forall_mem_cons.mp clear
      have left : s.next.rest = rest := by simp [State.next, front]
      exact (next front here).trans (ih s.next (by rwa [left]))

theorem count (s : State) (before : Nat) : s.Climbs before before s.count :=
  ⟨⟨[], .count s, fun _ => Nat.le_refl _⟩, [], rfl, by simp⟩

theorem report (s : State) {error : GrammarError} (other : error.cause.isUnclosed = false) :
    s.Climbs 0 0 (s.report error) :=
  ⟨⟨[], .report s error, fun _ => Nat.le_refl _⟩, [error], rfl, by simpa using other⟩

theorem resume (climbs : s.Climbs 0 0 t) (noClosing : ¬s.sees .delimiter "\x7d") :
    s.Climbs 0 0 (t.resume s.position) := by
  refine climbs.trans ?_
  simp only [State.resume]
  split
  next stuck =>
    -- Nothing was taken, so the next token is the one that was seen to be no closing brace.
    obtain ⟨⟨taken, reaches, -⟩, -⟩ := climbs
    have none : taken = [] := by
      have moved := reaches.position
      exact List.eq_nil_of_length_eq_zero (by omega)
    have same : s.rest = t.rest := by simpa [none] using reaches.rest
    cases front : t.rest with
    | nil =>
      have still : t.next = t := by simp [State.next, front]
      rw [still]
      exact refl t
    | cons token rest => exact next front (by simpa [State.sees, same, front] using noClosing)
  next => exact skip t _ (dropCount_clear _ t.rest)

end State.Climbs

section

variable {α : Type} {s : State} {p : Parser α}

theorem GuardsFrom.raise (guards : GuardsFrom 0 0 s p) : GuardsFrom 1 1 s p := by
  simp only [GuardsFrom] at guards ⊢
  cases run : p.run s with
  | ok value t =>
    rw [run] at guards
    exact guards.raise 1
  | error failure t =>
    rw [run] at guards
    cases failure with
    | rejected error => exact ⟨(guards.1.raise 1).lower (Nat.zero_le 1), guards.2⟩
    | halted error => exact (guards.raise 1).lower (Nat.le_succ 1)

theorem attempt_guardsFrom (guards : Guards p) (noClosing : ¬s.sees .delimiter "\x7d") :
    GuardsFrom 0 0 s (attempt p) := by
  have guarded := guards s
  simp only [GuardsFrom, run_attempt] at guarded ⊢
  cases run : p.run s with
  | ok value t =>
    rw [run] at guarded
    exact guarded
  | error failure t =>
    rw [run] at guarded
    cases failure with
    | rejected error => exact (guarded.1.trans (.report t guarded.2)).resume noClosing
    | halted error => exact guarded

end

theorem statementsThroughBrace_guardsFrom {item : Parser Statement} (guards : Guards item)
    (owner : Owner) (bound : List Token) (s : State) :
    GuardsFrom 1 0 s (statementsThroughBrace owner item bound) := by
  induction bound generalizing s with
  | nil => exact .refl s
  | cons _ bound ih =>
    rw [GuardsFrom, statementsThroughBrace, run_takes_bind]
    by_cases closed : s.sees .delimiter "\x7d"
    next =>
      rw [if_pos closed]
      cases front : s.rest with
      | nil => simp [State.sees, front] at closed
      | cons token rest => exact .closing front (by simpa [State.sees, front] using closed)
    next =>
      rw [if_neg closed]
      simp only [Bool.false_eq_true, if_false, EStateM.run_bind, run_atEnd]
      by_cases ended : s.rest.isEmpty
      next =>
        rw [ended]
        exact .refl s
      next =>
        rw [Bool.not_eq_true] at ended
        simp only [ended, Bool.false_eq_true, if_false, EStateM.run_bind, run_tick]
        split
        next => exact .count s 1
        next =>
          have tried : GuardsFrom 1 1 s.count (attempt item) :=
            (attempt_guardsFrom (s := s.count) guards closed).raise
          refine Guarded.prepend (tried.andThen fun found t => ?_) (.count s 1)
          cases found with
          | none => exact ih t
          | some value => exact (ih t).bind fun _ => Guards.pure _

theorem expect_opening (s : State) : GuardsFrom 0 1 s (expect .delimiter "\x7b") := by
  simp only [GuardsFrom, expect, EStateM.run_bind, EStateM.run_get]
  cases front : s.rest with
  | nil => exact ⟨.refl s, rfl⟩
  | cons token rest =>
    dsimp only
    split
    next opens => exact .opening front opens
    next => exact ⟨.refl s, rfl⟩

theorem block_guards (room : Nat) (owner : Owner) : Guards (block room owner) := by
  induction room generalizing owner with
  | zero => exact guards_stepwise.noRoom owner
  | succ room ih =>
    intro s
    refine (expect_opening s).andThen fun _ t => ?_
    have form := guards_stepwise.statement fun inner _ => ih inner
    exact (statementsThroughBrace_guardsFrom form owner t.rest t).bind fun _ => Guards.pure _

theorem statement_guards (room : Nat) : Guards (statement room) :=
  guards_stepwise.statement fun owner _ => block_guards room owner

/-- From `s` to `t` no error is about an unclosed construct, or only the last one is and then
braces are open at the end. -/
def Warns (s t : State) : Prop :=
  ∃ new, (∀ error ∈ new, error.cause.isUnclosed = false) ∧
    (t.reported = new ++ s.reported ∨
      ∃ last, t.reported = last :: new ++ s.reported ∧ ∀ depth, 0 < braceDepth depth s.rest)

theorem Warns.prepend {s t u : State} {taken : List Token} {new : List GrammarError}
    (warns : Warns t u) (reaches : s.Reaches taken t) (reported : t.reported = new ++ s.reported)
    (others : ∀ error ∈ new, error.cause.isUnclosed = false) : Warns s u := by
  obtain ⟨later, othersLater, silent | ⟨last, told, deep⟩⟩ := warns
  all_goals
    refine ⟨later ++ new, fun error member => ?_, ?_⟩
    next => exact (List.mem_append.mp member).elim (othersLater error) (others error)
  next => exact .inl (by rw [silent, reported, List.append_assoc])
  next =>
    refine .inr ⟨last, by simp [told, reported], fun depth => ?_⟩
    rw [reaches.rest, braceDepth_append]
    exact deep _

theorem attempt_reports {s t : State} {found : Option Statement} (more : s.rest ≠ [])
    (run : (attempt (statement maxNesting)).run s = .ok found t) :
    ∃ taken new, s.Reaches taken t ∧ t.reported = new ++ s.reported ∧
      ∀ error ∈ new, error.cause.isUnclosed = false := by
  have guarded := statement_guards maxNesting s
  rw [run_attempt] at run
  simp only [GuardsFrom] at guarded
  cases tried : (statement maxNesting).run s with
  | ok value u =>
    rw [tried] at run guarded
    cases run
    obtain ⟨⟨taken, reaches, -⟩, new, reported, others⟩ := guarded
    exact ⟨taken, new, reaches, reported, others⟩
  | error failure u =>
    rw [tried] at run guarded
    cases failure with
    | halted error => cases run
    | rejected error =>
      cases run
      obtain ⟨drops, -⟩ := rejected_resume (statement_steady maxNesting) more tried
      obtain ⟨dropped, reachesLater⟩ := drops.moves.reaches
      obtain ⟨⟨⟨taken, reaches, -⟩, new, reported, others⟩, other⟩ := guarded
      refine ⟨_, error :: new, (reaches.trans (.report u error)).trans reachesLater, ?_, ?_⟩
      next =>
        rw [drops.reported]
        simp [State.report, reported]
      next => exact List.forall_mem_cons.mpr ⟨other, others⟩

theorem statements_warns (bound : List Token) {s t : State} {program : Program}
    (unlimited : s.limit = none) (run : (statements bound).run s = .ok program t) : Warns s t := by
  induction bound generalizing s program with
  | nil =>
    cases run
    exact ⟨[], by simp, .inl rfl⟩
  | cons token bound ih =>
    by_cases ended : s.rest = []
    next =>
      rw [statements_ended _ ended] at run
      cases run
      exact ⟨[], by simp, .inl rfl⟩
    next =>
      rw [run_statements token bound ended (by simp [unlimited])] at run
      cases tried : (attempt (statement maxNesting)).run s.count with
      | error failure u =>
        rw [tried] at run
        cases run
        obtain ⟨halted, error, rfl⟩ := attempt_error tried
        have guarded := statement_guards maxNesting s.count
        have ends := (statement_steady maxNesting s.count).ends
        rw [GuardsFrom, halted] at guarded
        rw [halted] at ends
        obtain ⟨⟨taken, reaches, bound⟩, new, reported, others⟩ := guarded
        -- The input has ended, so the brace that is open here is open behind all tokens.
        have exhausted : u.rest = [] := ends.2.2.2 (.of_unlimited (s := s.count) unlimited 1)
        have whole : s.rest = taken := by simpa [exhausted, State.count] using reaches.rest
        refine ⟨new, others, .inr ⟨error, ?_, fun depth => ?_⟩⟩
        next => simp [State.report, Failure.error, reported, State.count]
        next =>
          rw [whole]
          exact Nat.lt_of_lt_of_le (Nat.succ_pos depth) (bound depth)
      | ok found u =>
        obtain ⟨taken, new, reaches, reported, others⟩ := attempt_reports (s := s.count) ended tried
        have unlimitedThere : u.limit = none := reaches.limit.trans unlimited
        have later {rest : Program} (read : (statements bound).run u = .ok rest t) : Warns s t :=
          (ih unlimitedThere read).prepend ((State.Reaches.count s).trans reaches) reported others
        rw [tried] at run
        cases found with
        | none => exact later run
        | some value =>
          cases read : (statements bound).run u with
          | error failure v => simp [read] at run
          | ok rest v =>
            simp only [read] at run
            cases run
            exact later read

def TellsUnclosed (error : GrammarError) : Prop :=
  ∃ (construct : Construct) (line : Nat), error.cause.message = construct.describe ++
    " starting at line " ++ toString line ++ " is not properly closed"

theorem isUnclosed_of_tells {error : GrammarError} (tells : TellsUnclosed error) :
    error.cause.isUnclosed := by
  obtain ⟨construct, line, same⟩ := tells
  have letter : error.cause.initial = (Cause.unclosed construct line).initial :=
    Cause.initial_eq same
  cases cause : error.cause with
  | unclosed => rfl
  | tooDeep level => cases level <;> cases construct <;> simp [cause, Cause.initial] at letter
  | _ => cases construct <;> simp [cause, Cause.initial] at letter

def openings (tokens : List Token) : Nat := tokens.countP (·.is .delimiter "\x7b")

def closings (tokens : List Token) : Nat := tokens.countP (·.is .delimiter "\x7d")

/-- Each closing brace has an opening one before it, and each opening brace is closed. -/
structure Matched (tokens : List Token) : Prop where
  before : ∀ n, closings (tokens.take n) ≤ openings (tokens.take n)
  all : closings tokens = openings tokens

theorem matched_iff {tokens : List Token} :
    Matched tokens ↔ (∀ n < tokens.length, closings (tokens.take n) ≤ openings (tokens.take n)) ∧
      closings tokens = openings tokens := by
  constructor
  next =>
    intro matched
    exact ⟨fun n _ => matched.before n, matched.all⟩
  next =>
    rintro ⟨before, all⟩
    refine ⟨fun n => ?_, all⟩
    by_cases within : n < tokens.length
    next => exact before n within
    next =>
      rw [List.take_of_length_le (Nat.not_lt.mp within)]
      exact Nat.le_of_eq all

instance (tokens : List Token) : Decidable (Matched tokens) := decidable_of_iff' _ matched_iff

theorem braceDepth_add_closings (depth : Nat) (tokens : List Token)
    (enough : ∀ n, closings (tokens.take n) ≤ depth + openings (tokens.take n)) :
    braceDepth depth tokens + closings tokens = depth + openings tokens := by
  induction tokens generalizing depth with
  | nil => rfl
  | cons token tokens ih =>
    have first := enough 1
    have later := ih (braceStep depth token)
    have more (n : Nat) := enough (n + 1)
    simp only [closings, openings, List.take_succ_cons, List.countP_cons, braceStep, braceDepth,
      List.foldl_cons, List.take_zero, List.countP_nil] at first later more ⊢
    by_cases opens : token.is .delimiter "\x7b"
    next =>
      have noClosing : token.is .delimiter "\x7d" = false := by simp [Token.is_of_is opens]
      simp only [opens, noClosing, if_true, Bool.false_eq_true, if_false] at later more ⊢
      have rest := later fun n => by have := more n; omega
      omega
    next =>
      by_cases closes : token.is .delimiter "\x7d"
      next =>
        simp only [opens, closes, if_true, Bool.false_eq_true, if_false] at first later more ⊢
        have rest := later fun n => by have := more n; omega
        omega
      next =>
        simp only [opens, closes, Bool.false_eq_true, if_false] at later more ⊢
        have rest := later fun n => by have := more n; omega
        omega

theorem Matched.braceDepth_eq {tokens : List Token} (matched : Matched tokens) :
    braceDepth 0 tokens = 0 := by
  have sum := braceDepth_add_closings 0 tokens fun n => by simpa using matched.before n
  have same := matched.all
  omega

theorem parse_warns (tokens : List Token) :
    ∃ earlier, (∀ error ∈ earlier, ¬TellsUnclosed error) ∧
      ((parse tokens).errors = earlier ∨
        ∃ last, (parse tokens).errors = earlier ++ [last] ∧ 0 < braceDepth 0 tokens) := by
  have same : parseWithin none tokens = parse tokens := parseWithin_eq_parse (by simp)
  obtain ⟨program, t, run, -⟩ := @statements_within none tokens (by simp)
  have errors : (parse tokens).errors = t.reported.reverse := by rw [← same, parseWithin, run]
  obtain ⟨new, others, told⟩ := statements_warns tokens rfl run
  refine ⟨new.reverse, fun error member tells => ?_, ?_⟩
  next =>
    have clean := others error (List.mem_reverse.mp member)
    rw [isUnclosed_of_tells tells] at clean
    cases clean
  next =>
    obtain silent | ⟨last, told, deep⟩ := told
    next => exact .inl (by rw [errors, silent, List.append_nil])
    next => exact .inr ⟨last, by rw [errors, told, List.append_nil, List.reverse_cons], deep 0⟩

theorem parse_unclosed (tokens : List Token) :
    (∀ i error, (parse tokens).errors[i]? = some error → TellsUnclosed error →
      i + 1 = (parse tokens).errors.length) ∧
    (Matched tokens → ∀ error ∈ (parse tokens).errors, ¬TellsUnclosed error) := by
  obtain ⟨earlier, others, silent | ⟨last, told, deep⟩⟩ := parse_warns tokens
  next =>
    rw [silent]
    refine ⟨fun i error found tells => ?_, fun _ => others⟩
    exact absurd tells (others error (List.mem_of_getElem? found))
  next =>
    rw [told]
    constructor
    next =>
      intro i error found tells
      have within := (List.getElem?_eq_some_iff.mp found).1
      by_cases early : i < earlier.length
      next =>
        rw [List.getElem?_append_left early] at found
        exact absurd tells (others error (List.mem_of_getElem? found))
      next =>
        rw [List.length_append, List.length_singleton] at within ⊢
        omega
    next =>
      intro matched
      rw [matched.braceDepth_eq] at deep
      cases deep

def strayTokens : List Token :=
  [.ofLexeme .delimiter "\x7d" 1, .ofLexeme .delimiter "\x7b" 2]

def brokenTokens : List Token :=
  [.ofLexeme .keyword "if" 1, .ofLexeme .delimiter "(" 1, .ofLexeme .delimiter "\x7b" 1,
    .ofLexeme .delimiter ";" 2, .ofLexeme .delimiter "\x7d" 3]

theorem parse_unclosed_stray :
    (parse strayTokens).errors[1]? = some ⟨2, .unclosed .block 2⟩ ∧
    TellsUnclosed ⟨2, .unclosed .block 2⟩ ∧ 1 + 1 = (parse strayTokens).errors.length ∧
    Matched brokenTokens ∧ (parse brokenTokens).errors.length = 2 ∧
    ∀ error ∈ (parse brokenTokens).errors, ¬TellsUnclosed error := by
  have found : (parse strayTokens).errors[1]? = some ⟨2, .unclosed .block 2⟩ := rfl
  have tells : TellsUnclosed ⟨2, .unclosed .block 2⟩ := ⟨.block, 2, rfl⟩
  have matched : Matched brokenTokens := by decide
  exact ⟨found, tells, (parse_unclosed strayTokens).1 1 _ found tells, matched, rfl,
    (parse_unclosed brokenTokens).2 matched⟩

end DrawScript.Grammar
