import DrawScript.Proofs.Grammar.Acceptance
import DrawScript.Proofs.Grammar.Recovery.Program

set_option autoImplicit false

namespace DrawScript.Grammar

namespace State

/-- The state that `s` is when it was reached behind all that `past` has read. -/
def behind (s past : State) : State where
  rest := s.rest
  previous := if s.position = 0 then past.previous else s.previous
  position := past.position + s.position
  steps := past.steps + s.steps
  limit := s.limit.map (past.steps + ·)
  reported := s.reported ++ past.reported

def Begun (s : State) : Prop := s.rest = [] → 0 < s.position

variable {s past : State}

theorem previous_behind (taken : 0 < s.position) : (s.behind past).previous = s.previous :=
  if_neg (by omega)

theorem next_behind (s past : State) : (s.behind past).next = s.next.behind past := by
  cases front : s.rest with
  | nil => simp [next, behind, front]
  | cons token rest => simp [next, behind, front, Nat.add_assoc]

theorem skip_behind (s past : State) (count : Nat) :
    (s.behind past).skip count = (s.skip count).behind past := by
  induction count generalizing s with
  | zero => rfl
  | succ count ih => rw [skip, skip, next_behind, ih]

theorem resume_behind (s past : State) (start : Nat) :
    (s.behind past).resume (past.position + start) = (s.resume start).behind past := by
  have moved : decide (past.position + start < (s.behind past).position) =
      decide (start < s.position) := by
    simp [behind]
  have stuck (count : Nat) : (s.behind past).position + count = past.position + start ↔
      s.position + count = start := by
    simp only [behind]
    omega
  simp only [resume, moved, stuck, next_behind, skip_behind]
  exact (apply_ite (fun t : State => t.behind past) _ _ _).symm

theorem Begun.alike (begun : s.Begun) (past : State) : s.Alike (s.behind past) := by
  refine ⟨rfl, ?_⟩
  cases front : s.rest with
  | nil => simpa [line, front, behind] using previous_behind (begun front)
  | cons token rest => simp [line, front, behind]

theorem Begun.moves {t : State} (begun : s.Begun) (moves : s.Moves t) : t.Begun := by
  intro ended
  have forward := moves.position_le
  have left := moves.left
  rw [ended, List.length_nil] at left
  by_cases empty : s.rest = []
  next => exact Nat.lt_of_lt_of_le (begun empty) forward
  next =>
    have more := List.length_pos_iff.mpr empty
    omega

end State

def behindResult {α : Type} (past : State) :
    EStateM.Result Failure State α → EStateM.Result Failure State α
  | .ok value t => .ok value (t.behind past)
  | .error failure t => .error failure (t.behind past)

/-- From `s` the parser does the same behind what `past` has read. -/
def Same {α : Type} (past s : State) (p : Parser α) : Prop :=
  p.run (s.behind past) = behindResult past (p.run s)

theorem Same.bind {α β : Type} {past s : State} {p : Parser α} {f : α → Parser β}
    (first : Same past s p)
    (later : ∀ value t, p.run s = .ok value t → Same past t (f value)) :
    Same past s (p >>= f) := by
  rw [Same, EStateM.run_bind, EStateM.run_bind, first]
  cases run : p.run s with
  | error failure t => rfl
  | ok value t => exact later value t run

structure Shifts {α : Type} (past : State) (least : Nat) (s : State) (p : Parser α) : Prop where
  steady : SteadyFrom 1 least s p
  same : s.Begun → Same past s p

theorem Shifts.append {α β : Type} {past s : State} {least more : Nat} {p : Parser α}
    {f : α → Parser β} (first : Shifts past least s p)
    (later : ∀ value t, (0 < s.position ∨ 0 < least → 0 < t.position) →
      Shifts past more t (f value)) : Shifts past (least + more) s (p >>= f) := by
  refine ⟨first.steady.append (Nat.le_add_right 1 _) fun value t _ took => ?_, fun begun => ?_⟩
  next => exact (later value t (by omega)).steady
  next =>
    refine (first.same begun).bind fun value t run => ?_
    have ends := first.steady.ends
    rw [run] at ends
    obtain ⟨leads, took⟩ := ends
    exact (later value t (by omega)).same (begun.moves leads.moves)

theorem Shifts.get {α : Type} {past s : State} {least : Nat} {f : State → Parser α}
    (same : ∀ t, s.Alike t → f t = f s) (shifts : Shifts past least s (f s)) :
    Shifts past least s (MonadState.get >>= f) := by
  refine ⟨.get (same _ ⟨rfl, rfl⟩) shifts.steady, fun begun => ?_⟩
  have shifted : (f (s.behind past)).run (s.behind past) = behindResult past ((f s).run s) := by
    rw [same _ (begun.alike past)]
    exact shifts.same begun
  exact shifted

theorem shifts_stepwise (past : State) :
    StatementStepwise (Shifts past) (Shifts past) (fun _ _ => True) (fun s => 0 < s.position)
      fun _ => True where
  weaken shifts fewer := ⟨shifts.steady.weaken fewer, shifts.same⟩
  stay _ _ := ⟨.stay _, fun _ => rfl⟩
  append first later := first.append fun value t _ => later value t fun _ _ => trivial
  blames _ := trivial
  reject other _ := ⟨fail_steadyFrom other _, fun _ => rfl⟩
  look := Shifts.get
  take front _ := by
    refine ⟨advance_steadyFrom front, fun _ => ?_⟩
    exact congrArg (EStateM.Result.ok ()) (State.next_behind _ past)
  remain _ _ := ⟨.stay _, fun _ => rfl⟩
  lessen shifts fewer := ⟨shifts.steady.weaken fewer, shifts.same⟩
  quietly first later := first.append fun value t kept => later value t (fun _ _ => trivial) kept
  follow := Shifts.append
  glance := Shifts.get
  know shifts := shifts trivial
  missing {s} _ taken := by
    refine ⟨.get rfl (fail_steadyFrom rfl _), fun _ => ?_⟩
    have line : (s.behind past).previous = s.previous := State.previous_behind taken
    exact congrArg (fun n => EStateM.Result.error (Failure.rejected ⟨n, _⟩) _) line

section

variable {past s : State}

theorem attempt_same {α : Type} {p : Parser α} (same : Same past s p) :
    Same past s (attempt p) := by
  rw [Same, run_attempt, run_attempt, same]
  cases p.run s with
  | ok value t => rfl
  | error failure t =>
    cases failure with
    | halted error => rfl
    | rejected error =>
      have resumed := State.resume_behind (t.report error) past s.position
      exact congrArg (EStateM.Result.ok none) resumed

theorem takes_same (kind : Token.Kind) (text : String) : Same past s (takes kind text) := by
  have seen : (s.behind past).sees kind text = s.sees kind text := rfl
  rw [Same, run_takes, run_takes, seen]
  cases s.sees kind text with
  | true => exact congrArg (EStateM.Result.ok true) (s.next_behind past)
  | false => rfl

theorem tick_same : Same past s tick := by
  have exceeded : (s.behind past).limit.any (· < past.steps + s.steps + 1) =
      s.limit.any (· < s.steps + 1) := by
    cases limit : s.limit <;> simp [State.behind, limit, Nat.add_assoc]
  exact congrArg (EStateM.Result.ok · (s.count.behind past)) exceeded

theorem statementsThroughBrace_same {item : Parser Statement}
    (shifts : ∀ s, Shifts past 1 s item) (owner : Owner) (bound : List Token)
    (taken : 0 < s.position) : Same past s (statementsThroughBrace owner item bound) := by
  induction bound generalizing s with
  | nil => rfl
  | cons _ bound ih =>
    refine (takes_same _ _).bind fun closed t run => ?_
    rw [run_takes] at run
    split at run
    next =>
      cases run
      rfl
    next =>
      cases run
      refine Same.bind (rfl : Same past s atEnd) fun ended t run => ?_
      cases run
      cases ended : s.rest.isEmpty with
      | true => rfl
      | false =>
        have more : s.rest ≠ [] := by simpa using ended
        refine tick_same.bind fun exceeded t run => ?_
        cases run
        cases s.limit.any (· < s.steps + 1) with
        | true => rfl
        | false =>
          have same : Same past s.count item := (shifts s.count).same fun _ => taken
          refine (attempt_same same).bind fun found t run => ?_
          have past := (after_attempt (s := s.count) (fun s => (shifts s).steady) more).2
          rw [State.after, run] at past
          have rest := ih (Nat.lt_of_le_of_lt (Nat.zero_le _) past)
          cases found with
          | none => exact rest
          | some value => exact rest.bind fun _ _ _ => rfl

end

theorem block_shifts (past : State) (room : Nat) (owner : Owner) :
    ∀ s, Shifts past 1 s (block room owner) := by
  have laws := shifts_stepwise past
  induction room generalizing owner with
  | zero => exact laws.noRoom owner
  | succ room ih =>
    intro s
    refine ⟨block_steady (room + 1) owner s, fun begun => ?_⟩
    have form := laws.statement fun inner _ => ih inner
    have opens : Shifts past 1 s (expect .delimiter "\x7b") := laws.expect (by decide) s
    refine (opens.same begun).bind fun line t run => ?_
    have ends := opens.steady.ends
    rw [run] at ends
    have taken : 0 < t.position := Nat.lt_of_lt_of_le (Nat.succ_pos s.position) ends.2
    have through : Same past t (do
        let statements ← statementsThroughBrace owner (statement room) t.rest
        return ⟨statements, line⟩ : Parser (Block Statement)) :=
      (statementsThroughBrace_same form owner t.rest taken).bind fun _ _ _ => rfl
    exact through

theorem statement_shifts (past : State) (room : Nat) : ∀ s, Shifts past 1 s (statement room) :=
  (shifts_stepwise past).statement fun owner _ => block_shifts past room owner

theorem statements_behind (past : State) (bound later : List Token) {s : State}
    (enough : s.rest.length ≤ bound.length) (enoughLater : s.rest.length ≤ later.length)
    (begun : s.Begun) (unlimited : s.limit = none) :
    ∃ program t, (statements bound).run s = .ok program t ∧
      (statements later).run (s.behind past) = .ok program (t.behind past) := by
  induction bound generalizing later s with
  | nil =>
    have ended : s.rest = [] := List.eq_nil_of_length_eq_zero (Nat.le_zero.mp enough)
    exact ⟨[], s, rfl, statements_ended later ended⟩
  | cons token bound ih =>
    by_cases ended : s.rest = []
    next => exact ⟨[], s, statements_ended _ ended, statements_ended later ended⟩
    next =>
      cases later with
      | nil => exact absurd (List.eq_nil_of_length_eq_zero (Nat.le_zero.mp enoughLater)) ended
      | cons other later =>
        have free : (s.behind past).limit = none := by simp [State.behind, unlimited]
        have same : (attempt (statement maxNesting)).run (s.behind past).count =
            behindResult past ((attempt (statement maxNesting)).run s.count) :=
          attempt_same ((statement_shifts past maxNesting s.count).same begun)
        rw [run_statements token bound ended (by rw [unlimited]; rfl),
          run_statements (s := s.behind past) other later ended (by rw [free]; rfl), same]
        have ends := attempt_ends (statement_steady maxNesting) ended
        cases run : (attempt (statement maxNesting)).run s.count with
        | error failure t => exact ⟨[], t.report failure.error, rfl, rfl⟩
        | ok found t =>
          rw [run] at ends
          obtain ⟨leads, taken⟩ := ends
          have left := leads.moves.left
          rw [List.length_cons] at enough enoughLater
          obtain ⟨program, u, rest, restBehind⟩ := ih later (s := t) (by omega) (by omega)
            (fun _ => by omega) (leads.moves.limit_eq.trans unlimited)
          cases found with
          | none => exact ⟨program, u, rest, restBehind⟩
          | some value =>
            refine ⟨value :: program, u, ?_, ?_⟩
            next => simp only [rest]
            next => simp only [behindResult, restBehind]

theorem parse_append (first second : List Token) (program : Program)
    (accepted : parse first = ⟨program, []⟩)
    (noElse : ¬Begins (·.is .keyword "else") second) :
    parse (first ++ second) = ⟨program ++ (parse second).program, (parse second).errors⟩ := by
  have spelled : Script first program := script_of_parseWithin accepted
  by_cases empty : second = []
  next =>
    have nothing : parse [] = ⟨[], []⟩ := rfl
    rw [empty, nothing, List.append_nil, List.append_nil, accepted]
  next =>
    have unlimited (tokens : List Token) : parse tokens = parseWithin none tokens :=
      (parseWithin_eq_parse (by simp)).symm
    obtain ⟨t, later, walks, left, enough, run⟩ := statements_continue spelled noElse
      { rest := first ++ second, limit := none } rfl (by simp [State.Ample]) (first ++ second)
      (Nat.le_refl _)
    -- The first text is all that `t` has read, so the second one starts right behind it.
    have start : State.behind { rest := second, limit := none } t = t := by
      have free : t.limit = none := walks.limit
      cases t
      simp_all [State.behind]
    obtain ⟨others, u, runSecond, runLater⟩ := statements_behind t second later
      (s := { rest := second, limit := none }) (Nat.le_refl _) enough
      (by simpa [State.Begun] using empty) rfl
    have silent : t.reported = [] := walks.silent
    rw [start] at runLater
    rw [unlimited, unlimited, parseWithin, parseWithin, run, EStateM.run_bind, runLater, runSecond]
    simp [State.behind, silent]

-- The brace of `if (a) {}` is the token before the statements, two of which lack a semicolon and
-- one its brace: `d; c.; { x`.
theorem parse_append_unclosed :
    ∃ first second : List Token,
      parse first = ⟨[.ifElse (.identifier "a") ⟨[], 1⟩ none 1], []⟩ ∧
      ¬Begins (·.is .keyword "else") second ∧
      parse (first ++ second) =
        ⟨[.ifElse (.identifier "a") ⟨[], 1⟩ none 1, .expression (.identifier "d") 2],
          [⟨3, .missingSemicolon .expression⟩, ⟨5, .missingSemicolon .expression⟩,
            ⟨4, .unclosed .block 4⟩]⟩ := by
  let first : List Token :=
    [.ofLexeme .keyword "if" 1, .ofLexeme .delimiter "(" 1, .ofLexeme .identifier "a" 1,
      .ofLexeme .delimiter ")" 1, .ofLexeme .delimiter "\x7b" 1, .ofLexeme .delimiter "\x7d" 1]
  let second : List Token :=
    [.ofLexeme .identifier "d" 2, .ofLexeme .delimiter ";" 2, .ofLexeme .identifier "c" 3,
      .ofLexeme .access "." 3, .ofLexeme .delimiter ";" 3, .ofLexeme .delimiter "\x7b" 4,
      .ofLexeme .identifier "x" 5]
  have accepted : parse first = ⟨[.ifElse (.identifier "a") ⟨[], 1⟩ none 1], []⟩ := rfl
  have noElse : ¬Begins (·.is .keyword "else") second := by
    rintro ⟨_, _, split, isElse⟩
    obtain ⟨rfl, -⟩ := List.cons.inj split
    exact absurd isElse (by decide)
  have alone : parse second =
      ⟨[.expression (.identifier "d") 2],
        [⟨3, .missingSemicolon .expression⟩, ⟨5, .missingSemicolon .expression⟩,
          ⟨4, .unclosed .block 4⟩]⟩ := by
    dsimp only [second]
    rfl
  have whole := parse_append first second _ accepted noElse
  rw [alone] at whole
  exact ⟨first, second, accepted, noElse, whole⟩

end DrawScript.Grammar
