import DrawScript.Proofs.Grammar.Derivation
import DrawScript.Proofs.Grammar.Progress

set_option autoImplicit false

namespace DrawScript.Grammar

/-- From `s` the tokens taken spell the value. Unless gaps are allowed, that is promised only of a
run that reports nothing. -/
def ReadsFrom {α : Type} (gaps : Prop) (s : State) (spelling : Spelling α) (p : Parser α) : Prop :=
  match p.run s with
  | .ok value t =>
      ∃ taken, s.Reaches taken t ∧ (gaps ∨ t.reported = s.reported → spelling taken value)
  | .error _ t => ∃ taken, s.Reaches taken t

def Reads {α : Type} (gaps : Prop) (spelling : Spelling α) (p : Parser α) : Prop :=
  ∀ s, ReadsFrom gaps s spelling p

variable {gaps : Prop}

section

variable {α β : Type}

theorem ReadsFrom.bind {s : State} {first : Spelling α} {whole : Spelling β} {p : Parser α}
    {f : α → Parser β} (reads : ReadsFrom gaps s first p)
    (continues : ∀ taken value t, s.Reaches taken t →
      ReadsFrom gaps t (fun later result => first taken value → whole (taken ++ later) result)
        (f value)) :
    ReadsFrom gaps s whole (p >>= f) := by
  unfold ReadsFrom at reads ⊢
  rw [EStateM.run_bind]
  cases run : p.run s with
  | error failure t => simpa [run] using reads
  | ok value t =>
    simp only [run] at reads ⊢
    obtain ⟨taken, reaches, spelled⟩ := reads
    have continued := continues taken value t reaches
    unfold ReadsFrom at continued
    cases again : (f value).run t with
    | error failure u =>
      simp only [again] at continued
      obtain ⟨later, further⟩ := continued
      exact ⟨taken ++ later, reaches.trans further⟩
    | ok result u =>
      simp only [again] at continued
      obtain ⟨later, further, derived⟩ := continued
      refine ⟨taken ++ later, reaches.trans further, fun granted => ?_⟩
      rcases granted with allowed | same
      next => exact derived (.inl allowed) (spelled (.inl allowed))
      next =>
        obtain ⟨before, after⟩ := reaches.silent further same
        exact derived (.inr after) (spelled (.inr before))

theorem Reads.bind {first : Spelling α} {whole : Spelling β} {p : Parser α} {f : α → Parser β}
    (reads : Reads gaps first p)
    (continues : ∀ taken value,
      Reads gaps (fun later result => first taken value → whole (taken ++ later) result)
        (f value)) :
    Reads gaps whole (p >>= f) :=
  fun s => (reads s).bind fun taken value t _ => continues taken value t

theorem ReadsFrom.stay {s : State} {spelling : Spelling α} {value : α}
    (spelled : spelling [] value) : ReadsFrom gaps s spelling (pure value) :=
  ⟨[], .refl s, fun _ => spelled⟩

theorem Reads.pure {spelling : Spelling α} {value : α} (spelled : spelling [] value) :
    Reads gaps spelling (pure value) :=
  fun _ => .stay spelled

theorem Reads.fail {spelling : Spelling α} {line : Nat} {cause : Cause} :
    Reads gaps spelling (fail line cause) :=
  fun s => ⟨[], .refl s⟩

theorem Reads.halt {spelling : Spelling α} {line : Nat} {cause : Cause} :
    Reads gaps spelling (halt line cause) :=
  fun s => ⟨[], .refl s⟩

theorem Reads.get {spelling : Spelling α} {f : State → Parser α}
    (continues : ∀ s, ReadsFrom gaps s spelling (f s)) :
    Reads gaps spelling (MonadState.get >>= f) :=
  continues

theorem ReadsFrom.mono {s : State} {spelling wider : Spelling α} {p : Parser α}
    (reads : ReadsFrom gaps s spelling p)
    (implies : ∀ tokens value, spelling tokens value → wider tokens value) :
    ReadsFrom gaps s wider p := by
  unfold ReadsFrom at reads ⊢
  cases run : p.run s with
  | error failure t => simpa [run] using reads
  | ok value t =>
    simp only [run] at reads ⊢
    obtain ⟨taken, reaches, spelled⟩ := reads
    exact ⟨taken, reaches, fun same => implies taken value (spelled same)⟩

theorem Reads.mono {spelling wider : Spelling α} {p : Parser α} (reads : Reads gaps spelling p)
    (implies : ∀ tokens value, spelling tokens value → wider tokens value) : Reads gaps wider p :=
  fun s => (reads s).mono implies

theorem Reads.currentLine {spelling : Spelling α} {f : Nat → Parser α}
    (continues : ∀ line, Reads gaps (fun tokens value =>
      (∀ first more, tokens = first :: more → first.line = line) → spelling tokens value)
        (f line)) :
    Reads gaps spelling (currentLine >>= f) := by
  -- If a token is taken at all, it is the one whose line was seen.
  intro s
  have read := continues s.line s
  unfold ReadsFrom at read ⊢
  rw [EStateM.run_bind, run_currentLine]
  simp only
  cases run : (f s.line).run s with
  | error failure t => simpa [run] using read
  | ok value t =>
    simp only [run] at read ⊢
    obtain ⟨taken, reaches, spelled⟩ := read
    refine ⟨taken, reaches, fun same => spelled same ?_⟩
    rintro first more rfl
    simp [State.line, reaches.rest]

end

def Terminal (kind : Token.Kind) (text : String) : Spelling Nat :=
  fun tokens line => ∃ token, tokens = [token] ∧ token.is kind text ∧ token.line = line

def Skipped (kind : Token.Kind) (text : String) : Spelling Bool :=
  fun tokens taken => if taken then ∃ line, Terminal kind text tokens line else tokens = []

theorem advance_readsFrom {s : State} {token : Token} {rest : List Token}
    (front : s.rest = token :: rest) :
    ReadsFrom gaps s (fun tokens _ => tokens = [token]) advance :=
  ⟨[token], .next front, fun _ => rfl⟩

theorem sees_reads (kind : Token.Kind) (text : String) :
    Reads gaps (fun tokens _ => tokens = []) (sees kind text) :=
  fun s => ⟨[], .refl s, fun _ => rfl⟩

theorem atEnd_reads : Reads gaps (fun tokens _ => tokens = []) atEnd :=
  fun s => ⟨[], .refl s, fun _ => rfl⟩

theorem takes_reads (kind : Token.Kind) (text : String) :
    Reads gaps (Skipped kind text) (takes kind text) := by
  intro s
  unfold ReadsFrom
  rw [run_takes]
  by_cases seen : s.sees kind text
  next =>
    rw [if_pos seen]
    cases front : s.rest with
    | nil => simp [State.sees, front] at seen
    | cons token rest =>
      have same : token.is kind text := by simpa [State.sees, front] using seen
      exact ⟨[token], .next front, fun _ => ⟨token.line, token, rfl, same, rfl⟩⟩
  next =>
    rw [if_neg seen]
    exact ⟨[], .refl s, fun _ => rfl⟩

theorem expect_reads (kind : Token.Kind) (text : String) :
    Reads gaps (Terminal kind text) (expect kind text) := by
  refine Reads.get fun s => ?_
  cases front : s.rest with
  | nil => exact Reads.fail s
  | cons token rest =>
    dsimp only
    split
    next same =>
      refine (advance_readsFrom front).bind fun _ _ _ _ => ?_
      apply ReadsFrom.stay
      rintro rfl
      exact ⟨token, rfl, same, rfl⟩
    next => exact Reads.fail s

theorem expectName_reads (place : NamePlace) : Reads gaps Identifier (expectName place) := by
  refine Reads.get fun s => ?_
  cases front : s.rest with
  | nil => exact Reads.fail s
  | cons token rest =>
    dsimp only
    split
    next same =>
      refine (advance_readsFrom front).bind fun _ _ _ _ => ?_
      apply ReadsFrom.stay
      rintro rfl
      exact .name same
    next => exact Reads.fail s

theorem expectSemicolon_reads (closing : Closing) :
    Reads gaps (fun tokens _ => ∃ line, Terminal .delimiter ";" tokens line)
      (expectSemicolon closing) := by
  refine (takes_reads _ _).bind fun _ taken => ?_
  cases taken with
  | true =>
    apply Reads.pure
    intro semicolon
    simpa [Skipped] using semicolon
  | false => exact Reads.get fun s => Reads.fail s

theorem separated_reads {α : Type} {item : Spelling α} {p : Parser α} (items : Reads gaps item p)
    (bound : List Token) : Reads gaps (Separated item) (separated p bound) := by
  induction bound with
  | nil =>
    refine items.bind fun _ _ => ?_
    apply Reads.pure
    intro only
    simpa using Separated.one only
  | cons _ bound ih =>
    refine items.bind fun _ _ => ?_
    refine (takes_reads _ _).bind fun _ taken => ?_
    cases taken with
    | true =>
      refine ih.bind fun _ _ => ?_
      apply Reads.pure
      rintro later ⟨_, comma, rfl, isComma, rfl⟩ first
      simpa using Separated.more first isComma later
    | false =>
      apply Reads.pure
      rintro rfl only
      simpa using Separated.one only

theorem parenthesized_reads {α : Type} {item : Spelling α} {p : Parser α}
    (items : Reads gaps item p) : Reads gaps (Parenthesized item) (parenthesized p) := by
  have listed : Reads gaps (fun tokens values =>
      (tokens = [] ∧ values = []) ∨ Separated item tokens values) (listed p) := by
    refine (sees_reads _ _).bind fun _ seen => ?_
    cases seen with
    | true =>
      apply Reads.pure
      rintro rfl
      exact .inl ⟨rfl, rfl⟩
    | false =>
      refine Reads.get fun s => ?_
      refine (separated_reads items s.rest).mono ?_ s
      rintro tokens values separated rfl
      exact .inr separated
  refine (expect_reads _ _).bind fun _ _ => ?_
  refine listed.bind fun _ _ => ?_
  refine (expect_reads _ _).bind fun _ _ => ?_
  apply Reads.pure
  rintro ⟨closing, rfl, closes, rfl⟩ (⟨rfl, rfl⟩ | separated) ⟨opening, rfl, opens, rfl⟩
  next => exact .none opens closes
  next => simpa using Parenthesized.some opens separated closes

end DrawScript.Grammar
