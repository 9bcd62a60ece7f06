import DrawScript.Proofs.Grammar.Recovery.Basic

set_option autoImplicit false

namespace DrawScript.Grammar

theorem dropCount_le (moved : Bool) (tokens : List Token) :
    dropCount moved tokens ≤ tokens.length := by
  induction tokens generalizing moved with
  | nil => exact Nat.le_refl 0
  | cons token rest ih =>
    have later := ih true
    simp only [dropCount, List.length_cons]
    split
    next => omega
    next =>
      split
      next => omega
      next => split <;> omega

namespace State

variable {s t u : State}

structure Drops (s t : State) : Prop where
  moves : s.Moves t
  steps : t.steps = s.steps
  reported : t.reported = s.reported

theorem Drops.next (more : s.rest ≠ []) : s.Drops s.next := by
  obtain ⟨token, rest, front⟩ := List.exists_cons_of_ne_nil more
  exact ⟨(Move.take more).moves, by simp [State.next, front], by simp [State.next, front]⟩

theorem Drops.trans (first : s.Drops t) (second : t.Drops u) : s.Drops u :=
  ⟨first.moves.trans second.moves, second.steps.trans first.steps,
    second.reported.trans first.reported⟩

theorem position_next (more : s.rest ≠ []) : s.next.position = s.position + 1 := by
  obtain ⟨token, rest, front⟩ := List.exists_cons_of_ne_nil more
  simp [State.next, front]

theorem skip_drops (s : State) (count : Nat) (within : count ≤ s.rest.length) :
    s.Drops (s.skip count) ∧ (s.skip count).position = s.position + count := by
  induction count generalizing s with
  | zero => exact ⟨⟨.refl s, rfl, rfl⟩, rfl⟩
  | succ count ih =>
    have more : s.rest ≠ [] := by
      intro empty
      simp [empty] at within
    have left := (Move.take more).moves.left
    have further := position_next more
    obtain ⟨drops, moved⟩ := ih s.next (by omega)
    refine ⟨(Drops.next more).trans drops, ?_⟩
    simp only [skip]
    omega

theorem resume_drops {start : Nat} (behind : start ≤ s.position)
    (more : s.position = start → s.rest ≠ []) :
    s.Drops (s.resume start) ∧ start < (s.resume start).position := by
  have within := dropCount_le (start < s.position) s.rest
  simp only [resume]
  split
  next stuck =>
    have here : s.position = start := by omega
    have further := position_next (more here)
    exact ⟨.next (more here), by omega⟩
  next =>
    obtain ⟨drops, moved⟩ := skip_drops s _ within
    exact ⟨drops, by omega⟩

theorem skip_unlimited (s : State) (count : Nat) :
    s.unlimited.skip count = (s.skip count).unlimited := by
  induction count generalizing s with
  | zero => rfl
  | succ count ih => rw [skip, skip, next_unlimited, ih]

theorem resume_unlimited (s : State) (start : Nat) :
    s.unlimited.resume start = (s.resume start).unlimited := by
  simp only [resume, next_unlimited, skip_unlimited]
  exact (apply_ite unlimited _ _ _).symm

theorem Ample.count (ample : s.Ample 0) : s.count.Ample 1 := by
  intro limit member
  have within := ample limit member
  simp only [State.count]
  omega

theorem Ample.within (ample : s.Ample 0) (more : s.rest ≠ []) :
    s.limit.any (· < s.steps + 1) = false := by
  have left := List.length_pos_iff.mpr more
  cases bounded : s.limit with
  | none => rfl
  | some limit =>
    have within := ample limit bounded
    simp only [Option.any_some, decide_eq_false_iff_not]
    omega

theorem Leads.tried (leads : s.count.Leads 1 t) (moves : t.Moves u) (steps : u.steps = t.steps)
    (errors : u.reported.length ≤ t.reported.length + 1) (past : s.position < u.position) :
    s.Leads 0 u where
  moves := (Move.count s).moves.trans (leads.moves.trans moves)
  errors := by
    have few : t.reported.length + (s.steps + 1) ≤ s.reported.length + t.steps := leads.errors
    omega
  steps := by
    intro ample
    have few : t.steps ≤ s.steps + 1 + (t.position - s.position - 1) := leads.steps ample.count
    have forward := moves.position_le
    omega

end State

section

variable {α : Type} {item : Parser α} {s t : State}

theorem rejected_resume (steady : Steady 1 item) (more : s.rest ≠ []) {error : GrammarError}
    (run : item.run s = .error (.rejected error) t) :
    (t.report error).Drops ((t.report error).resume s.position) ∧
      s.position < ((t.report error).resume s.position).position := by
  have ends := (steady s).ends
  rw [run] at ends
  have left := ends.1.moves.left
  apply State.resume_drops
  next => exact ends.1.moves.position_le
  next =>
    -- Nothing was taken, so the tokens that were there still are.
    intro stuck empty
    have same : t.position = s.position := stuck
    have none : t.rest = [] := empty
    rw [none, same] at left
    have nothing : s.rest.length = 0 := by simpa using left.symm
    exact more (List.eq_nil_of_length_eq_zero nothing)

theorem after_attempt (steady : Steady 1 item) (more : s.rest ≠ []) :
    s.Moves (s.after (attempt item)) ∧ s.position < (s.after (attempt item)).position := by
  have ends := (steady s).ends
  simp only [State.after, run_attempt]
  cases run : item.run s with
  | ok value t =>
    rw [run] at ends
    exact ⟨ends.1.moves, ends.2⟩
  | error failure t =>
    rw [run] at ends
    cases failure with
    | halted error => exact ⟨ends.1.moves, ends.2.2.1⟩
    | rejected error =>
      obtain ⟨drops, past⟩ := rejected_resume steady more run
      have noted := ends.1.moves.trans (State.Move.report t ends.2).moves
      exact ⟨noted.trans drops.moves, past⟩

theorem attempt_ends (steady : Steady 1 item) (more : s.rest ≠ []) :
    Ends 0 1 s ((attempt item).run s.count) := by
  have ends := (steady s.count).ends
  rw [run_attempt]
  cases run : item.run s.count with
  | ok value t =>
    rw [run] at ends
    obtain ⟨leads, past⟩ := ends
    exact ⟨leads.tried (.refl t) rfl (Nat.le_succ _) past, past⟩
  | error failure t =>
    rw [run] at ends
    cases failure with
    | halted error =>
      obtain ⟨leads, other, past, exhausted⟩ := ends
      exact ⟨leads.tried (.refl t) rfl (Nat.le_succ _) past, other, Nat.le_of_lt past,
        fun ample => exhausted ample.count⟩
    | rejected error =>
      obtain ⟨leads, other⟩ := ends
      obtain ⟨drops, past⟩ := rejected_resume steady (s := s.count) more run
      have moves := (State.Move.report t other).moves.trans drops.moves
      refine ⟨leads.tried moves drops.steps ?_ past, past⟩
      rw [drops.reported]
      exact Nat.le_refl _

theorem attempt_unlimited (steady : Steady 1 item) (ample : s.Ample 1) :
    (attempt item).run s.unlimited = unlimitedResult ((attempt item).run s) := by
  rw [run_attempt, run_attempt, (steady s).unlimited ample]
  cases item.run s with
  | ok value t => rfl
  | error failure t =>
    cases failure with
    | halted error => rfl
    | rejected error =>
      have same := State.resume_unlimited (t.report error) s.position
      exact congrArg (EStateM.Result.ok none) same

theorem tried_steadyFrom (steady : Steady 1 item) (more : s.rest ≠ []) :
    SteadyFrom 0 1 s (do modify State.count; attempt item) where
  ends := attempt_ends steady more
  unlimited := by
    intro ample
    exact attempt_unlimited (s := s.count) steady ample.count

end

theorem unclosed_steadyFrom {α : Type} {least : Nat} {s : State} (owner : Owner)
    (exhausted : s.rest = []) : SteadyFrom 0 least s (unclosed owner : Parser α) :=
  ⟨⟨.refl s, by simp, Nat.le_refl _, fun _ => exhausted⟩, fun _ => rfl⟩

theorem tick_steadyFrom {α : Type} {least : Nat} {s : State} {p : Parser α} (owner : Owner)
    (more : s.rest ≠ []) (tries : SteadyFrom 0 least s (do modify State.count; p)) :
    SteadyFrom 0 least s (do if ← tick then unclosed owner else p) := by
  by_cases exceeded : s.limit.any (· < s.steps + 1)
  next =>
    have scarce : ¬ s.Ample 0 := by
      intro ample
      rw [ample.within more] at exceeded
      cases exceeded
    have run : (do if ← tick then unclosed owner else p : Parser α).run s =
        .error (.halted ⟨owner.line, .unclosed owner.construct owner.line⟩) s.count := by
      rw [EStateM.run_bind, run_tick, exceeded]
      rfl
    constructor
    next =>
      rw [run]
      refine ⟨⟨(State.Move.count s).moves, ?_, fun ample => absurd ample scarce⟩, by simp,
        Nat.le_refl _, fun ample => absurd ample scarce⟩
      simp only [State.count]
      omega
    next => exact fun ample => absurd ample scarce
  next =>
    rw [Bool.not_eq_true] at exceeded
    apply tries.congr
    next =>
      rw [EStateM.run_bind, run_tick, exceeded]
      rfl
    next => rfl

theorem atEnd_steadyFrom {α : Type} {spare least : Nat} {s : State} {p q : Parser α}
    (ended : s.rest = [] → SteadyFrom spare least s p)
    (more : s.rest ≠ [] → SteadyFrom spare least s q) :
    SteadyFrom spare least s (do if ← atEnd then p else q) := by
  by_cases empty : s.rest = []
  next =>
    have emptyUnlimited : s.unlimited.rest = [] := empty
    apply (ended empty).congr
    next => rw [EStateM.run_bind, run_atEnd, empty]; rfl
    next => rw [EStateM.run_bind, run_atEnd, emptyUnlimited]; rfl
  next =>
    have here : s.rest.isEmpty = false := by simpa using empty
    have hereUnlimited : s.unlimited.rest.isEmpty = false := here
    apply (more empty).congr
    next => rw [EStateM.run_bind, run_atEnd, here]; rfl
    next => rw [EStateM.run_bind, run_atEnd, hereUnlimited]; rfl

theorem statementsThroughBrace_steadyFrom {item : Parser Statement} (steady : Steady 1 item)
    (owner : Owner) (bound : List Token) (s : State) (enough : s.rest.length ≤ bound.length) :
    SteadyFrom 0 0 s (statementsThroughBrace owner item bound) := by
  induction bound generalizing s with
  | nil => exact unclosed_steadyFrom owner (List.eq_nil_of_length_eq_zero (Nat.le_zero.mp enough))
  | cons _ bound ih =>
    refine SteadyFrom.takes (fun _ => .stay []) ?_ (Nat.zero_le 1)
    refine atEnd_steadyFrom (unclosed_steadyFrom owner) fun more => ?_
    apply tick_steadyFrom owner more
    -- The statement tried takes a token, so the bound is enough for what comes after it.
    rw [← bind_assoc]
    refine ((tried_steadyFrom steady more).andThen (Nat.le_add_right 0 1) ?_).weaken (Nat.zero_le 1)
    intro found t moves past
    have left := moves.left
    rw [List.length_cons] at enough
    have rest := ih t (by omega)
    cases found with
    | none => exact rest
    | some value => exact rest.andThen (Nat.le_refl 0) fun _ _ _ _ => .stay _

theorem block_steady (room : Nat) (owner : Owner) : Steady 1 (block room owner) := by
  induction room generalizing owner with
  | zero => exact steady_stepwise.noRoom owner
  | succ room ih =>
    intro s
    -- Inside its braces a block may try a statement for each token: it has taken one already.
    refine (steady_stepwise.expect (by decide) s).andThen (Nat.le_refl 1) fun _ t _ _ => ?_
    refine SteadyFrom.get rfl ?_
    have form := steady_stepwise.statement fun inner _ => ih inner
    have through := statementsThroughBrace_steadyFrom form owner t.rest t (Nat.le_refl _)
    exact through.andThen (Nat.le_refl 0) fun _ _ _ _ => .stay _

theorem statement_steady (room : Nat) : Steady 1 (statement room) :=
  steady_stepwise.statement fun owner _ => block_steady room owner

theorem attempt_error {α : Type} {item : Parser α} {s t : State} {failure : Failure}
    (run : (attempt item).run s = .error failure t) :
    item.run s = .error failure t ∧ ∃ error, failure = .halted error := by
  rw [run_attempt] at run
  cases first : item.run s with
  | ok value u => simp [first] at run
  | error other u =>
    cases other with
    | rejected error => simp [first] at run
    | halted error =>
      simp only [first, EStateM.Result.error.injEq] at run
      obtain ⟨rfl, rfl⟩ := run
      exact ⟨rfl, error, rfl⟩

theorem run_statements {s : State} (token : Token) (bound : List Token) (more : s.rest ≠ [])
    (within : s.limit.any (· < s.steps + 1) = false) :
    (statements (token :: bound)).run s =
      match (attempt (statement maxNesting)).run s.count with
      | .ok (some value) t =>
          match (statements bound).run t with
          | .ok program u => .ok (value :: program) u
          | .error failure u => .error failure u
      | .ok none t => (statements bound).run t
      | .error failure t => .ok [] (t.report failure.error) := by
  have here : s.rest.isEmpty = false := by simpa using more
  rw [statements, EStateM.run_bind, run_atEnd, here]
  simp only [Bool.false_eq_true, if_false]
  rw [EStateM.run_bind, run_tick, within]
  simp only [Bool.false_eq_true, if_false]
  rw [EStateM.run_bind, run_outcome]
  change _ = match (attempt (statement maxNesting)).run { s with steps := s.steps + 1 } with
    | .ok (some value) t => _
    | .ok none t => _
    | .error failure t => _
  cases (attempt (statement maxNesting)).run { s with steps := s.steps + 1 } with
  | error failure t => rfl
  | ok found t =>
    cases found with
    | none => rfl
    | some value =>
      dsimp only
      rw [EStateM.run_bind]
      cases (statements bound).run t <;> rfl

theorem statements_run (bound : List Token) (s : State) (enough : s.rest.length ≤ bound.length)
    (ample : s.Ample 0) :
    ∃ program t, (statements bound).run s = .ok program t ∧ s.Leads 0 t ∧ t.rest = [] ∧
      (statements bound).run s.unlimited = .ok program t.unlimited := by
  induction bound generalizing s with
  | nil =>
    exact ⟨[], s, rfl, .refl s, List.eq_nil_of_length_eq_zero (Nat.le_zero.mp enough), rfl⟩
  | cons token bound ih =>
    by_cases ended : s.rest = []
    next =>
      have endedUnlimited : s.unlimited.rest = [] := ended
      refine ⟨[], s, ?_, .refl s, ended, ?_⟩
      next => rw [statements, EStateM.run_bind, run_atEnd, ended]; rfl
      next => rw [statements, EStateM.run_bind, run_atEnd, endedUnlimited]; rfl
    next =>
      have free : (attempt (statement maxNesting)).run s.unlimited.count =
          unlimitedResult ((attempt (statement maxNesting)).run s.count) :=
        attempt_unlimited (statement_steady maxNesting) ample.count
      rw [run_statements token bound ended (ample.within ended),
        run_statements (s := s.unlimited) token bound ended rfl, free]
      cases run : (attempt (statement maxNesting)).run s.count with
      | error failure t =>
        obtain ⟨first, error, rfl⟩ := attempt_error run
        have ends := (statement_steady maxNesting s.count).ends
        rw [first] at ends
        obtain ⟨leads, other, past, exhausted⟩ := ends
        have noted := leads.tried (State.Move.report t other).moves rfl (Nat.le_refl _) past
        exact ⟨[], t.report error, rfl, noted, exhausted ample.count, rfl⟩
      | ok found t =>
        have ends := attempt_ends (statement_steady maxNesting) ended
        rw [run] at ends
        obtain ⟨leads, past⟩ := ends
        have left := leads.moves.left
        rw [List.length_cons] at enough
        obtain ⟨program, u, rest, further, exhausted, restUnlimited⟩ :=
          ih t (by omega) (leads.ample past (Nat.zero_le _) ample)
        have whole := leads.trans past (Nat.zero_le _) further
        cases found with
        | none => exact ⟨program, u, rest, whole, exhausted, restUnlimited⟩
        | some value =>
          refine ⟨value :: program, u, ?_, whole, exhausted, ?_⟩
          next => simp only [rest]
          next => simp only [unlimitedResult, restUnlimited]

def Cause.initial : Cause → Char
  | .unexpectedKeyword _ => 'U'
  | .missingSemicolon _ => 'M'
  | .invalidTarget _ => 'I'
  | .copyArity _ _ => 'c'
  | .tooDeep .block => 'B'
  | .unclosed .block _ => 'b'
  | .unclosed .ifElse _ => 'i'
  | .unclosed .forLoop _ | .unclosed .function _ => 'f'
  | .unclosed .whileLoop _ => 'w'
  | .unclosed .doWhile _ => 'd'
  | .unclosed .animate _ => 'a'
  | .stepLimit => 'P'
  | _ => 'E'

theorem Cause.message_head (cause : Cause) : cause.message.toList.head? = some cause.initial := by
  delta message
  cases cause with
  | tooDeep level => cases level <;> simp [Level.describe, initial]
  | unclosed construct line => cases construct <;> simp [Construct.describe, initial]
  | _ => simp [initial]

theorem Cause.initial_eq {cause other : Cause} (same : cause.message = other.message) :
    cause.initial = other.initial := by
  have heads := congrArg (fun text : String => text.toList.head?) same
  simpa [message_head] using heads

theorem Cause.message_ne_stepLimit {cause : Cause} (other : cause ≠ .stepLimit) :
    cause.message ≠ Cause.stepLimit.message := by
  intro same
  have letter : cause.initial = 'P' := initial_eq same
  cases cause with
  | stepLimit => exact other rfl
  | tooDeep level => cases level <;> cases letter
  | unclosed construct line => cases construct <;> cases letter
  | _ => cases letter

theorem statements_within {limit : Option Nat} {tokens : List Token}
    (enough : ∀ n ∈ limit, tokens.length ≤ n) :
    ∃ program t, (statements tokens).run { rest := tokens, limit := limit } = .ok program t ∧
      State.Leads 0 { rest := tokens, limit := limit } t ∧
      t.position = tokens.length ∧ t.steps ≤ tokens.length ∧
      parseWithin none tokens = ⟨program, t.reported.reverse⟩ := by
  have ample : State.Ample { rest := tokens, limit := limit } 0 := by
    intro n member
    simpa using enough n member
  obtain ⟨program, t, run, leads, exhausted, runUnlimited⟩ :=
    statements_run tokens { rest := tokens, limit := limit } (Nat.le_refl _) ample
  have left := leads.moves.left
  have few := leads.steps ample
  simp only [exhausted, List.length_nil] at left
  simp only at few
  have parsed : parseWithin none tokens = ⟨program, t.reported.reverse⟩ := by
    have free : (statements tokens).run { rest := tokens, limit := none } =
        .ok program t.unlimited := runUnlimited
    rw [parseWithin, free]
    rfl
  exact ⟨program, t, run, leads, by omega, by omega, parsed⟩

theorem parseWithin_eq_parse {limit : Option Nat} {tokens : List Token}
    (enough : ∀ n ∈ limit, tokens.length ≤ n) : parseWithin limit tokens = parse tokens := by
  have same {limit : Option Nat} (enough : ∀ n ∈ limit, tokens.length ≤ n) :
      parseWithin limit tokens = parseWithin none tokens := by
    obtain ⟨program, t, run, -, -, -, parsed⟩ := statements_within enough
    rw [parsed, parseWithin, run]
  have default : ∀ n ∈ some ((tokens.length + 1) * stepsPerToken), tokens.length ≤ n := by
    rintro n ⟨⟩
    rw [stepsPerToken]
    omega
  rw [same enough, parse, same default]

theorem parseWithin_steps (tokens : List Token) (limit : Option Nat)
    (enough : ∀ n ∈ limit, tokens.length ≤ n) :
    parseWithin limit tokens = parse tokens ∧
    (∀ room (s : State), s.rest ≠ [] → s.Moves (s.after (attempt (statement room))) ∧
      s.position < (s.after (attempt (statement room))).position) ∧
    (∃ program t, (statements tokens).run { rest := tokens, limit := limit } = .ok program t ∧
      State.Moves { rest := tokens, limit := limit } t ∧ t.position = tokens.length ∧
      t.steps ≤ tokens.length) ∧
    (parse tokens).errors.length ≤ tokens.length ∧
    ∀ error ∈ (parse tokens).errors, error.cause.message ≠ "Parser iteration limit reached" := by
  have same := parseWithin_eq_parse enough
  obtain ⟨program, t, run, leads, whole, few, -⟩ := statements_within enough
  have errors : (parse tokens).errors = t.reported.reverse := by
    rw [← same, parseWithin, run]
  refine ⟨same, fun room s more => after_attempt (statement_steady room) more,
    ⟨program, t, run, leads.moves, whole, few⟩, ?_, ?_⟩
  next =>
    have fewer : t.reported.length + 0 ≤ 0 + t.steps := leads.errors
    rw [errors, List.length_reverse]
    omega
  next =>
    intro error member
    rw [errors, List.mem_reverse] at member
    rcases leads.moves.reported member with earlier | other
    next => cases earlier
    next => exact Cause.message_ne_stepLimit other

-- Every token can be an error of its own.
theorem parseWithin_steps_braces :
    ∃ tokens : List Token, tokens = List.replicate 3 (.ofLexeme .delimiter "\x7d" 1) ∧
      (∀ n ∈ some 3, tokens.length ≤ n) ∧ parseWithin (some 3) tokens = parse tokens ∧
      tokens ≠ [] ∧
      0 < (State.after { rest := tokens, limit := some 3 } (attempt (statement 1))).position ∧
      (parse tokens).errors.length = 3 ∧
      ∀ error ∈ (parse tokens).errors,
        error.cause.message ≠ "Parser iteration limit reached" := by
  have enough : ∀ n ∈ some 3,
      (List.replicate 3 (Token.ofLexeme .delimiter "\x7d" 1)).length ≤ n := by decide
  have more : List.replicate 3 (Token.ofLexeme .delimiter "\x7d" 1) ≠ [] := by decide
  obtain ⟨same, tries, -, -, other⟩ := parseWithin_steps _ (some 3) enough
  have past := (tries 1 { rest := _, limit := some 3 } more).2
  exact ⟨_, rfl, enough, same, more, past, rfl, other⟩

end DrawScript.Grammar
