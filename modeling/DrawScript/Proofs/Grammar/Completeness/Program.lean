import DrawScript.Proofs.Grammar.Completeness.Statement

set_option autoImplicit false

namespace DrawScript.Grammar

/-- Statements are read without an error, and no more are tried than tokens are taken. -/
structure State.Walks (s : State) (tokens : List Token) (t : State) : Prop
    extends s.Reaches tokens t where
  silent : t.reported = s.reported
  steps : t.steps ≤ s.steps + tokens.length

namespace State.Walks

theorem trans {s t u : State} {tokens later : List Token} (first : s.Walks tokens t)
    (second : t.Walks later u) : s.Walks (tokens ++ later) u where
  toReaches := first.toReaches.trans second.toReaches
  silent := second.silent.trans first.silent
  steps := by
    have fewer := first.steps
    have fewerLater := second.steps
    rw [List.length_append]
    omega

theorem ample {s t : State} {tokens : List Token} (walks : s.Walks tokens t)
    (ample : s.Ample 0) : t.Ample 0 := by
  intro limit member
  have enough := ample limit (walks.limit ▸ member)
  have fewer := walks.steps
  rw [walks.rest, List.length_append] at enough
  omega

end State.Walks

theorem attempt_walks {item : Spelling Statement} {follow : List Token → Prop}
    {p : Parser Statement} (covers : Covers item follow p) {tokens rest : List Token}
    {value : Statement} (spelled : item tokens value) (nonempty : 0 < tokens.length)
    (followed : follow rest) (s : State) (front : s.rest = tokens ++ rest) (ample : s.Ample 0) :
    s.limit.any (· < s.steps + 1) = false ∧
      ∃ t, (attempt p).run { s with steps := s.steps + 1 } = .ok (some value) t ∧
        s.Walks tokens t ∧ t.rest = rest := by
  -- The statement is counted before its first token is taken; the spare step is for that.
  have longer : tokens.length + rest.length = s.rest.length := by rw [front, List.length_append]
  constructor
  next =>
    cases limited : s.limit with
    | none => rfl
    | some limit =>
      have enough := ample limit (by rw [limited]; rfl)
      simp only [Option.any_some, decide_eq_false_iff_not]
      omega
  next =>
    have spare : State.Ample { s with steps := s.steps + 1 } 1 := by
      intro limit member
      have enough := ample limit member
      simp only
      omega
    obtain ⟨t, run, passes⟩ :=
      covers _ _ _ spelled followed { s with steps := s.steps + 1 } front spare
    refine ⟨t, by rw [run_attempt, run], ?_, passes.rest_eq front⟩
    have fewer : t.steps ≤ s.steps + 1 + (tokens.length - 1) := passes.steps
    exact
      { rest := passes.rest, previous := passes.previous, position := passes.position
        limit := passes.limit, reported := passes.reported, silent := passes.silent
        steps := by omega }

theorem Sequence.noElse {item : Spelling Statement}
    (begins : ∀ tokens value, item tokens value → Begins StartsStatement tokens)
    {tokens rest : List Token} {values : List Statement} (spelled : Sequence item tokens values)
    (noElse : ¬Begins (·.is .keyword "else") rest) :
    ¬Begins (·.is .keyword "else") (tokens ++ rest) := by
  cases spelled with
  | nil => exact noElse
  | cons first =>
    obtain ⟨_, _, rfl, starts⟩ := begins _ _ first
    rintro ⟨_, _, split, isElse⟩
    obtain ⟨rfl, -⟩ := List.cons.inj split
    exact starts.1 isElse

theorem statementsThroughBrace_continue {item : Spelling Statement} {p : Parser Statement}
    (covers : Covers item (fun rest => ¬Begins (·.is .keyword "else") rest) p)
    (begins : ∀ tokens value, item tokens value → Begins StartsStatement tokens) (owner : Owner)
    {tokens rest : List Token} {values : List Statement} (spelled : Sequence item tokens values)
    (noElse : ¬Begins (·.is .keyword "else") rest) (s : State) (front : s.rest = tokens ++ rest)
    (ample : s.Ample 0) (bound : List Token) (enough : s.rest.length ≤ bound.length) :
    ∃ t later, s.Walks tokens t ∧ t.rest = rest ∧ rest.length ≤ later.length ∧
      (statementsThroughBrace owner p bound).run s =
        (do return values ++ (← statementsThroughBrace owner p later)).run t := by
  induction spelled generalizing s bound with
  | nil =>
    refine ⟨s, bound, ⟨.refl s, rfl, Nat.le_refl _⟩, front, by simpa [front] using enough, ?_⟩
    simp only [List.nil_append, bind_pure]
  | @cons tokens others value values first later ih =>
    have front : s.rest = tokens ++ (others ++ rest) := by rw [front, List.append_assoc]
    obtain ⟨token, more, rfl, starts⟩ := begins _ _ first
    cases bound with
    | nil => simp [front] at enough
    | cons _ bound =>
      obtain ⟨untold, t, run, walks, left⟩ :=
        attempt_walks covers first (by simp) (later.noElse begins noElse) s front ample
      obtain ⟨u, further, walksLater, leftLater, enoughLater, runLater⟩ :=
        ih t left (walks.ample ample) bound (by
          rw [walks.rest, List.length_append, List.length_cons] at enough
          simp only [List.length_cons] at enough
          omega)
      refine ⟨u, further, walks.trans walksLater, leftLater, enoughLater, ?_⟩
      have unseen : ¬s.sees .delimiter "\x7d" := by
        simpa [State.sees, front] using starts.2
      have present : s.rest.isEmpty = false := by rw [front]; rfl
      rw [statementsThroughBrace, EStateM.run_bind, run_takes, if_neg unseen]
      simp only [Bool.false_eq_true, if_false, EStateM.run_bind, run_atEnd, present, run_tick,
        untold, run, runLater]
      cases (statementsThroughBrace owner p further).run u <;> rfl

theorem statementsThroughBrace_closed (owner : Owner) (p : Parser Statement) {closing : Token}
    {rest : List Token} (closes : closing.is .delimiter "\x7d") {s : State}
    (front : s.rest = closing :: rest) {bound : List Token} (enough : 0 < bound.length) :
    (statementsThroughBrace owner p bound).run s = .ok [] s.next := by
  cases bound with
  | nil => cases enough
  | cons _ bound =>
    have seen : s.sees .delimiter "\x7d" := by simpa [State.sees, front] using closes
    rw [statementsThroughBrace, EStateM.run_bind, run_takes, if_pos seen]
    rfl

theorem Token.no_else {closing : Token} (closes : closing.is .delimiter "\x7d")
    (rest : List Token) : ¬Begins (·.is .keyword "else") (closing :: rest) := by
  rintro ⟨_, _, ⟨⟩, isElse⟩
  simp [Token.is_of_is closes] at isElse

theorem State.Walks.next {s : State} {token : Token} {rest : List Token}
    (front : s.rest = token :: rest) : s.Walks [token] s.next :=
  ⟨.next front, by simp [State.next, front], by simp [State.next, front]⟩

theorem statementsThroughBrace_walks {item : Spelling Statement} {p : Parser Statement}
    (covers : Covers item (fun rest => ¬Begins (·.is .keyword "else") rest) p)
    (begins : ∀ tokens value, item tokens value → Begins StartsStatement tokens) (owner : Owner)
    {tokens rest : List Token} {values : List Statement} (spelled : Sequence item tokens values)
    {closing : Token} (closes : closing.is .delimiter "\x7d") (s : State)
    (front : s.rest = tokens ++ closing :: rest) (ample : s.Ample 0) (bound : List Token)
    (enough : s.rest.length ≤ bound.length) :
    ∃ t, (statementsThroughBrace owner p bound).run s = .ok values t ∧
      s.Walks (tokens ++ [closing]) t := by
  obtain ⟨t, later, walks, left, enoughLater, run⟩ :=
    statementsThroughBrace_continue covers begins owner spelled (Token.no_else closes rest) s front
      ample bound enough
  refine ⟨t.next, ?_, walks.trans (.next left)⟩
  rw [run, EStateM.run_bind, statementsThroughBrace_closed owner p closes left (by
    rw [List.length_cons] at enoughLater
    omega)]
  simp

theorem block_covers (room : Nat) (owner : Owner) :
    Covers (BlockWithin room) (fun _ => True) (block room owner) := by
  induction room generalizing owner with
  | zero => exact fun _ _ _ spelled => spelled.elim
  | succ room ih =>
    intro tokens b rest spelled _ s front ample
    have covers : Covers (StatementWithin room) _ _ :=
      statementOf_covers (expression_covers room) (fun _ _ => Expression.begins)
        (fun _ _ => Expression.unbroken) ih (fun _ _ => BlockWithin.begins)
    cases spelled with
    | @braces opening closing tokens statements opens inner closes =>
      have front : s.rest = opening :: (tokens ++ closing :: rest) := by simp [front]
      have reaches := State.Reaches.next front
      have left : s.next.rest = tokens ++ closing :: rest := by simp [State.next, front]
      have spare : s.next.Ample 0 := by
        intro limit member
        have enough := ample limit (by simpa [State.next, front] using member)
        simp only [State.next, front, List.length_cons] at enough ⊢
        omega
      obtain ⟨t, run, walks⟩ := statementsThroughBrace_walks covers
        (fun _ _ => StatementWithin.begins) owner inner closes s.next left spare s.next.rest
        (Nat.le_refl _)
      refine ⟨t, ?_, reaches.trans walks.toReaches, ?_, ?_⟩
      next =>
        rw [block, EStateM.run_bind, run_expect front opens]
        simp only [EStateM.run_bind, EStateM.run_get, run]
        rfl
      next => rw [walks.silent]; simp [State.next, front]
      next =>
        have fewer := walks.steps
        simp only [State.next, front, List.length_append, List.length_cons, List.length_nil]
          at fewer ⊢
        omega

theorem statement_covers (room : Nat) :
    Covers (StatementWithin room) (fun rest => ¬Begins (·.is .keyword "else") rest)
      (statement room) :=
  statementOf_covers (expression_covers room) (fun _ _ => Expression.begins)
    (fun _ _ => Expression.unbroken) (block_covers room) (fun _ _ => BlockWithin.begins)

theorem statements_ended (bound : List Token) {s : State} (ended : s.rest = []) :
    (statements bound).run s = .ok [] s := by
  cases bound with
  | nil => rfl
  | cons _ bound =>
    rw [statements, EStateM.run_bind, run_atEnd]
    simp only [ended, List.isEmpty_nil, if_true]
    rfl

theorem statements_continue {tokens rest : List Token} {program : Program}
    (spelled : Sequence (StatementWithin maxNesting) tokens program)
    (noElse : ¬Begins (·.is .keyword "else") rest) (s : State) (front : s.rest = tokens ++ rest)
    (ample : s.Ample 0) (bound : List Token) (enough : s.rest.length ≤ bound.length) :
    ∃ t later, s.Walks tokens t ∧ t.rest = rest ∧ rest.length ≤ later.length ∧
      (statements bound).run s = (do return program ++ (← statements later)).run t := by
  induction spelled generalizing s bound with
  | nil =>
    refine ⟨s, bound, ⟨.refl s, rfl, Nat.le_refl _⟩, front, by simpa [front] using enough, ?_⟩
    simp only [List.nil_append, bind_pure]
  | @cons tokens others value values first later ih =>
    have front : s.rest = tokens ++ (others ++ rest) := by rw [front, List.append_assoc]
    obtain ⟨token, more, rfl, -⟩ := first.begins
    cases bound with
    | nil => simp [front] at enough
    | cons _ bound =>
      have noElse := later.noElse (fun _ _ => StatementWithin.begins) noElse
      obtain ⟨untold, t, run, walks, left⟩ :=
        attempt_walks (statement_covers _) first (by simp) noElse s front ample
      obtain ⟨u, further, walksLater, leftLater, enoughLater, runLater⟩ :=
        ih t left (walks.ample ample) bound (by
          rw [walks.rest, List.length_append, List.length_cons] at enough
          simp only [List.length_cons] at enough
          omega)
      refine ⟨u, further, walks.trans walksLater, leftLater, enoughLater, ?_⟩
      have present : s.rest.isEmpty = false := by rw [front]; rfl
      rw [statements, EStateM.run_bind, run_atEnd]
      simp only [present, Bool.false_eq_true, if_false, EStateM.run_bind, run_tick, untold,
        run_outcome, run, runLater]
      cases (statements further).run u <;> rfl

theorem statements_walks {tokens : List Token} {program : Program}
    (spelled : Sequence (StatementWithin maxNesting) tokens program) (s : State)
    (front : s.rest = tokens) (ample : s.Ample 0) (bound : List Token)
    (enough : s.rest.length ≤ bound.length) :
    ∃ t, (statements bound).run s = .ok program t ∧ s.Walks tokens t := by
  have noElse : ¬Begins (·.is .keyword "else") [] := by rintro ⟨_, _, split, -⟩; cases split
  obtain ⟨t, later, walks, left, -, run⟩ :=
    statements_continue spelled noElse s (by rw [front, List.append_nil]) ample bound enough
  refine ⟨t, ?_, walks⟩
  rw [run, EStateM.run_bind, statements_ended later left]
  simp

end DrawScript.Grammar
