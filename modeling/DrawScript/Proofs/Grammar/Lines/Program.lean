import DrawScript.Proofs.Grammar.Acceptance
import DrawScript.Proofs.Grammar.Lines.Basic
import DrawScript.Proofs.Grammar.Lines.Statement
import DrawScript.Proofs.Grammar.Recovery.Program
import DrawScript.Proofs.Token.Lines

set_option autoImplicit false

namespace DrawScript

namespace Grammar

section

variable {tokens : List Token} {s : State}

theorem Blamed.report {error : GrammarError} (blamed : Blamed tokens s error.line) :
    Placed tokens (s.report error) := by
  obtain ⟨index, stands, found⟩ := blamed
  exact ⟨index, stands.report found⟩

theorem Placed.count (placed : Placed tokens s) : Placed tokens s.count :=
  placed.move (.count s) rfl

variable {item : Parser Statement} (accounts : ∀ s, Accounts tokens 1 s item)
  (steady : Steady 1 item)

include accounts steady

theorem attempt_tracks (placed : Placed tokens s) (more : s.rest ≠ []) :
    Tracks tokens s (attempt item) fun t _ => Placed tokens t := by
  have tracks := accounts s placed
  rw [Tracks] at tracks ⊢
  rw [run_attempt]
  cases run : item.run s with
  | ok value t =>
    rw [run] at tracks
    exact tracks.1
  | error failure t =>
    rw [run] at tracks
    cases failure with
    | halted error => exact tracks
    | rejected error =>
      have drops := (rejected_resume steady more run).1
      obtain ⟨dropped, reaches⟩ := drops.moves.reaches
      exact tracks.report.move reaches drops.reported

theorem statementsThroughBrace_tracks {owner : Owner} (known : owner.line ∈ tokens.map Token.line)
    (bound : List Token) (placed : Placed tokens s) :
    Tracks tokens s (statementsThroughBrace owner item bound) fun t _ => Ahead tokens t := by
  have halts {s : State} (placed : Placed tokens s) :
      Tracks tokens s (unclosed owner : Parser (List Statement)) fun t _ => Ahead tokens t :=
    ⟨placed, known, owner.construct, rfl⟩
  induction bound generalizing s with
  | nil => exact halts placed
  | cons _ bound ih =>
    rw [statementsThroughBrace, takes_bind]
    change Tracks tokens s (if s.sees .delimiter "\x7d" then _ else _) _
    split
    next seen =>
      cases front : s.rest with
      | nil => simp [State.sees, front] at seen
      | cons token rest => exact (placed.passed (.next front) (Nat.le_refl 1)).2 (.inr Nat.one_pos)
    next =>
      change Tracks tokens s (if s.rest.isEmpty then _ else _) _
      split
      next => exact halts placed
      next ended =>
        have more : s.rest ≠ [] := by simpa using ended
        change Tracks tokens s.count (if s.limit.any (· < s.steps + 1) then _ else _) _
        split
        next => exact halts placed.count
        next =>
          refine (attempt_tracks accounts steady placed.count more).bind fun t found placed => ?_
          cases found with
          | none => exact ih placed
          | some value => exact (ih placed).bind fun u _ ahead => ahead

end

theorem block_accounts {tokens : List Token} (room : Nat) (owner : Owner)
    (known : owner.line ∈ tokens.map Token.line) :
    ∀ s, Accounts tokens 1 s (block room owner) := by
  have laws := accounts_stepwise tokens
  induction room generalizing owner with
  | zero => exact laws.noRoom owner
  | succ room ih =>
    intro s placed
    have accounts := laws.statement ih
    have opens : QuietFrom tokens 1 s (expect .delimiter "\x7b") :=
      laws.expect (by decide) s placed
    refine opens.bind ?_
    rintro t line ⟨taken, passes, -⟩
    have through := statementsThroughBrace_tracks accounts (statement_steady room) known t.rest
      (placed.passes passes)
    exact through.bind fun u _ ahead => ⟨ahead.placed, fun _ => ahead⟩

theorem statement_accounts (tokens : List Token) (room : Nat) :
    ∀ s, Accounts tokens 1 s (statement room) :=
  (accounts_stepwise tokens).statement (block_accounts room)

/-- Errors with the latest first: all follow the tokens, or all but the latest do and that one is
about an unclosed block. -/
def Accounted (tokens : List Token) (reported : List GrammarError) : Prop :=
  (∃ bound, Trail tokens bound reported) ∨
    ∃ bound construct line earlier, reported = ⟨line, .unclosed construct line⟩ :: earlier ∧
      Trail tokens bound earlier ∧ line ∈ tokens.map Token.line

section

variable {tokens : List Token} {s : State}

theorem Placed.accounted (placed : Placed tokens s) : Accounted tokens s.reported := by
  obtain ⟨low, stands⟩ := placed
  exact .inl ⟨low, stands.trail⟩

theorem Excused.accounted {failure : Failure} (excused : Excused tokens failure s) :
    Accounted tokens (s.report failure.error).reported := by
  cases failure with
  | rejected error => exact (Blamed.report excused).accounted
  | halted error =>
    obtain ⟨⟨low, stands⟩, known, construct, same⟩ := excused
    obtain ⟨line, cause⟩ := error
    obtain rfl : cause = .unclosed construct line := same
    exact .inr ⟨low, construct, line, s.reported, rfl, stands.trail, known⟩

theorem Tracks.outcome {α β : Type} {p : Parser α} {f : Except Failure α → Parser β}
    {mid : State → α → Prop} {post : State → β → Prop} (tracks : Tracks tokens s p mid)
    (succeeds : ∀ t value, mid t value → Tracks tokens t (f (.ok value)) post)
    (fails : ∀ t failure, Excused tokens failure t → Tracks tokens t (f (.error failure)) post) :
    Tracks tokens s (outcome p >>= f) post := by
  rw [Tracks] at tracks
  rw [Tracks, EStateM.run_bind, run_outcome]
  cases run : p.run s with
  | ok value t =>
    rw [run] at tracks
    exact succeeds t value tracks
  | error failure t =>
    rw [run] at tracks
    exact fails t failure tracks

theorem statements_tracks (bound : List Token) (placed : Placed tokens s) :
    Tracks tokens s (statements bound) fun t _ => Accounted tokens t.reported := by
  induction bound generalizing s with
  | nil => exact placed.accounted
  | cons _ bound ih =>
    change Tracks tokens s (if s.rest.isEmpty then _ else _) _
    split
    next => exact placed.accounted
    next ended =>
      have more : s.rest ≠ [] := by simpa using ended
      change Tracks tokens s.count (if s.limit.any (· < s.steps + 1) then _ else _) _
      split
      next => exact placed.count.line.report.accounted
      next =>
        have tried := attempt_tracks (statement_accounts tokens maxNesting)
          (statement_steady maxNesting) placed.count more
        refine tried.outcome (fun t found placed => ?_) fun t failure excused => excused.accounted
        cases found with
        | none => exact ih placed
        | some value => exact (ih placed).bind fun u _ accounted => accounted

end

theorem Accounted.mem {tokens : List Token} {reported : List GrammarError}
    (accounted : Accounted tokens reported) {error : GrammarError} (member : error ∈ reported) :
    error.line ∈ tokens.map Token.line := by
  have blamed {bound : Nat} {reported : List GrammarError} (trail : Trail tokens bound reported)
      (member : error ∈ reported) : error.line ∈ tokens.map Token.line := by
    obtain ⟨index, -, found⟩ := trail.blamed member
    exact List.mem_of_getElem? found
  rcases accounted with ⟨bound, trail⟩ | ⟨bound, construct, line, earlier, rfl, trail, known⟩
  next => exact blamed trail member
  next =>
    rcases List.mem_cons.mp member with rfl | older
    next => exact known
    next => exact blamed trail older

theorem parse_accounted (tokens : List Token) : Accounted tokens (parse tokens).errors.reverse := by
  by_cases empty : tokens = []
  next =>
    subst empty
    exact .inl ⟨0, .nil⟩
  next =>
    let s : State :=
      { rest := tokens, limit := some ((tokens.length + 1) * stepsPerToken) }
    have placed : Placed tokens s :=
      ⟨0, ⟨_, _, .refl s⟩, .nil, Nat.le_refl 0, List.length_pos_iff.mpr empty⟩
    have tracks := statements_tracks tokens placed
    obtain ⟨program, t, run⟩ := statements_ok tokens s
    rw [Tracks, run] at tracks
    rw [parse, parseWithin, run]
    simpa using tracks

theorem parse_spans (tokens : List Token) : Spans tokens (parse tokens).program.lines := by
  obtain ⟨taken, rest, rfl, mended⟩ := parse_mended tokens
  have spans := mended.spans fun _ _ form => form.spans (MendedBlock.spans maxNesting)
  exact spans.before rest

end Grammar

open Grammar

theorem parse_lines (tokens : List Token) :
    (∀ line ∈ (parse tokens).program.lines, ∃ token ∈ tokens, token.line = line) ∧
    (∀ error ∈ (parse tokens).errors, ∃ token ∈ tokens, token.line = error.line) ∧
    ((tokens.map Token.line).Pairwise (· ≤ ·) →
      (parse tokens).program.lines.Pairwise (· ≤ ·) ∧
      (((parse tokens).errors.map (·.line)).Pairwise (· ≤ ·) ∨
        ∃ earlier construct line,
          (parse tokens).errors = earlier ++ [⟨line, .unclosed construct line⟩] ∧
          (earlier.map (·.line)).Pairwise (· ≤ ·))) ∧
    ∀ script, ((tokenize script).tokens.map Token.line).Pairwise (· ≤ ·) := by
  have sub := parse_spans tokens
  have accounted := parse_accounted tokens
  refine ⟨?_, ?_, ?_, ?_⟩
  next => exact fun line member => List.mem_map.mp (sub.subset member)
  next =>
    exact fun error member => List.mem_map.mp (accounted.mem (List.mem_reverse.mpr member))
  next =>
    intro sorted
    refine ⟨sorted.sublist sub, ?_⟩
    rcases accounted with ⟨bound, trail⟩ | ⟨bound, construct, line, earlier, latest, trail, -⟩
    next => exact .inl (by simpa using trail.sorted sorted)
    next =>
      refine .inr ⟨earlier.reverse, construct, line, ?_, trail.sorted sorted⟩
      simpa using congrArg List.reverse latest
  next => exact fun script => (Reading.ofPieces_lines _ 1).tail

-- The loop is on line 4 and its body is cut short after an error on line 5.
theorem parse_lines_unclosed :
    ∃ tokens, tokens = (tokenize "if (a) \x7b\n  b;\n\x7d\nwhile (c) \x7b\n  d e; f;").tokens ∧
      (tokens.map Token.line).Pairwise (· ≤ ·) ∧
      (parse tokens).program.lines = [1, 1, 2] ∧
      (parse tokens).errors.map (·.line) = [5, 4] ∧
      (∀ error ∈ (parse tokens).errors, ∃ token ∈ tokens, token.line = error.line) ∧
      ∃ earlier construct line,
        (parse tokens).errors = earlier ++ [⟨line, .unclosed construct line⟩] ∧
        (earlier.map (·.line)).Pairwise (· ≤ ·) := by
  obtain ⟨tokens, given⟩ : ∃ tokens, tokens =
      (tokenize "if (a) \x7b\n  b;\n\x7d\nwhile (c) \x7b\n  d e; f;").tokens := ⟨_, rfl⟩
  obtain ⟨-, known, order, tokenized⟩ := parse_lines tokens
  have sorted : (tokens.map Token.line).Pairwise (· ≤ ·) := given ▸ tokenized _
  have program : (parse tokens).program.lines = [1, 1, 2] := by
    rw [given]
    decide +kernel
  have errors : (parse tokens).errors.map (·.line) = [5, 4] := by
    rw [given]
    decide +kernel
  refine ⟨tokens, given, sorted, program, errors, known, ?_⟩
  rcases (order sorted).2 with inOrder | last
  next =>
    rw [errors] at inOrder
    exact absurd inOrder (by decide)
  next => exact last

end DrawScript
