import DrawScript.Proofs.Grammar.Completeness.Program
import DrawScript.Proofs.Grammar.Soundness.Statement

set_option autoImplicit false

namespace DrawScript.Grammar

theorem parseWithin_of_script {limit : Option Nat} {tokens : List Token} {program : Program}
    (enough : ∀ n ∈ limit, tokens.length ≤ n) (spelled : Script tokens program) :
    parseWithin limit tokens = ⟨program, []⟩ := by
  -- One statement for each token is never too many, so the limit is not met.
  have ample : State.Ample { rest := tokens, limit := limit } 0 := by
    intro n member
    simpa using enough n member
  obtain ⟨t, run, walks⟩ := statements_walks spelled _ rfl ample tokens (Nat.le_refl _)
  simp [parseWithin, run, walks.silent]

theorem parse_of_script {tokens : List Token} {program : Program}
    (spelled : Script tokens program) : parse tokens = ⟨program, []⟩ := by
  apply parseWithin_of_script _ spelled
  rintro n ⟨⟩
  rw [stepsPerToken]
  omega

theorem statements_ok (bound : List Token) (s : State) :
    ∃ program t, (statements bound).run s = .ok program t := by
  induction bound generalizing s with
  | nil => exact ⟨[], s, rfl⟩
  | cons _ bound ih =>
    rw [statements, EStateM.run_bind, run_atEnd]
    dsimp only
    split
    next => exact ⟨[], s, rfl⟩
    next =>
      rw [EStateM.run_bind, run_tick]
      dsimp only
      split
      next => exact ⟨[], _, rfl⟩
      next =>
        rw [EStateM.run_bind, run_outcome]
        cases (attempt (statement maxNesting)).run { s with steps := s.steps + 1 } with
        | error failure t => exact ⟨[], _, rfl⟩
        | ok found t =>
          cases found with
          | none => exact ih t
          | some value =>
            obtain ⟨program, u, run⟩ := ih t
            refine ⟨value :: program, u, ?_⟩
            simp only [EStateM.run_bind, run]
            rfl

theorem script_of_parseWithin {limit : Option Nat} {tokens : List Token} {program : Program}
    (parsed : parseWithin limit tokens = ⟨program, []⟩) : Script tokens program := by
  obtain ⟨found, t, run⟩ := statements_ok tokens { rest := tokens, limit := limit }
  have filled (taken : List Token) (x : Statement) (form : StatementWithin maxNesting taken x) :
      0 < taken.length := by
    obtain ⟨first, more, rfl, -⟩ := form.begins
    simp
  have read := statements_readsFrom (statement_reads maxNesting) (.inr filled) tokens
    { rest := tokens, limit := limit }
  simp only [ReadsFrom, run] at read
  simp only [parseWithin, run] at parsed
  obtain ⟨taken, -, spelled⟩ := read
  obtain ⟨rfl, errors⟩ := Parsed.mk.inj parsed
  obtain ⟨mended, exhausted⟩ := spelled (.inr (by simpa using errors))
  have all : taken = tokens := exhausted.resolve_left id (Nat.le_refl _)
  rw [← all]
  exact mended.sequence

theorem parse_mended (tokens : List Token) :
    ∃ taken rest, tokens = taken ++ rest ∧
      Mended True (MendedStatement maxNesting) taken (parse tokens).program := by
  let s : State := { rest := tokens, limit := some ((tokens.length + 1) * stepsPerToken) }
  obtain ⟨program, t, run⟩ := statements_ok tokens s
  have read := statements_readsFrom (statement_mended maxNesting) (.inl trivial) tokens s
  simp only [ReadsFrom, run] at read
  obtain ⟨taken, reaches, spelled⟩ := read
  refine ⟨taken, t.rest, reaches.rest, ?_⟩
  rw [parse, parseWithin, run]
  exact (spelled (.inl trivial)).1

theorem parse_found (tokens : List Token) :
    ∀ x ∈ (parse tokens).program.walk, Found tokens x := by
  obtain ⟨taken, rest, rfl, mended⟩ := parse_mended tokens
  intro x member
  have found := mended.foundAll (fun _ _ form => form.foundAll (MendedBlock.foundAll maxNesting))
    x member
  exact found.within (List.prefix_append taken rest).isInfix

theorem parse_iff_script (tokens : List Token) (program : Program) :
    parse tokens = ⟨program, []⟩ ↔ Script tokens program :=
  ⟨script_of_parseWithin, parse_of_script⟩

-- A prefix operator binds tighter than `*`, and `=` is the loosest of all: `a = -b * c;`
example :
    parse [.ofLexeme .identifier "a" 1, .ofLexeme .assign "=" 1, .ofLexeme .operator "-" 1,
        .ofLexeme .identifier "b" 1, .ofLexeme .operator "*" 1, .ofLexeme .identifier "c" 1,
        .ofLexeme .delimiter ";" 1] =
      ⟨[.expression (.binary .assign (.identifier "a")
        (.binary .multiply (.unary .minus (.identifier "b")) (.identifier "c"))) 1], []⟩ := rfl

end DrawScript.Grammar
