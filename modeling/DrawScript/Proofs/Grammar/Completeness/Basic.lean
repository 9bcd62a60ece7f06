import DrawScript.Proofs.Grammar.FirstToken

set_option autoImplicit false

namespace DrawScript.Grammar

/-- The limit allows a statement for each token left, up to `spare` of them. -/
def State.Ample (s : State) (spare : Nat) : Prop :=
  ∀ limit ∈ s.limit, s.steps + s.rest.length ≤ limit + spare

theorem State.Ample.of_unlimited {s : State} (unlimited : s.limit = none) (spare : Nat) :
    s.Ample spare := by
  intro limit member
  rw [unlimited] at member
  cases member

/-- Reading gets over the tokens without an error. -/
structure State.Passes (s : State) (tokens : List Token) (t : State) : Prop
    extends s.Reaches tokens t where
  silent : t.reported = s.reported
  steps : t.steps ≤ s.steps + (tokens.length - 1)

namespace State.Passes

theorem refl (s : State) : s.Passes [] s := ⟨.refl s, rfl, Nat.le_refl _⟩

theorem next {s : State} {token : Token} {rest : List Token} (front : s.rest = token :: rest) :
    s.Passes [token] s.next :=
  ⟨.next front, by simp [State.next, front], by simp [State.next, front]⟩

theorem trans {s t u : State} {tokens later : List Token} (first : s.Passes tokens t)
    (second : t.Passes later u) : s.Passes (tokens ++ later) u where
  toReaches := first.toReaches.trans second.toReaches
  silent := second.silent.trans first.silent
  steps := by
    have fewer := first.steps
    have fewerLater := second.steps
    rw [List.length_append]
    omega

theorem rest_eq {s t : State} {tokens rest : List Token} (passes : s.Passes tokens t)
    (front : s.rest = tokens ++ rest) : t.rest = rest :=
  List.append_cancel_left (passes.rest.symm.trans front)

theorem ample {s t : State} {tokens : List Token} {spare : Nat} (passes : s.Passes tokens t)
    (ample : s.Ample spare) : t.Ample spare := by
  intro limit member
  have enough := ample limit (passes.limit ▸ member)
  have fewer := passes.steps
  rw [passes.rest, List.length_append] at enough
  omega

end State.Passes

/-- Wherever the tokens stand before the rest, the parser takes them and returns the value. -/
def Yields {α : Type} (p : Parser α) (tokens : List Token) (value : α) (rest : List Token) :
    Prop :=
  ∀ s : State, s.rest = tokens ++ rest → s.Ample 1 →
    ∃ t, p.run s = .ok value t ∧ s.Passes tokens t

/-- Everything spelled in this way is read when it is followed by such a rest. -/
def Covers {α : Type} (spelling : Spelling α) (follow : List Token → Prop) (p : Parser α) : Prop :=
  ∀ tokens value rest, spelling tokens value → follow rest → Yields p tokens value rest

theorem Covers.mono {α : Type} {spelling : Spelling α} {follow wider : List Token → Prop}
    {p : Parser α} (covers : Covers spelling wider p) (within : ∀ rest, follow rest → wider rest) :
    Covers spelling follow p :=
  fun _ _ rest spelled followed => covers _ _ _ spelled (within rest followed)

section

variable {α β : Type} {tokens rest : List Token}

theorem Yields.pure {value : α} : Yields (pure value) [] value rest :=
  fun s _ _ => ⟨s, rfl, .refl s⟩

theorem Yields.bind {p : Parser α} {f : α → Parser β} {first : List Token} {value : α} {result : β}
    (yields : Yields p first value (tokens ++ rest))
    (continues : Yields (f value) tokens result rest) :
    Yields (p >>= f) (first ++ tokens) result rest := by
  intro s front ample
  obtain ⟨t, run, passes⟩ := yields s (by rw [front, List.append_assoc]) ample
  have left : t.rest = tokens ++ rest := passes.rest_eq (by rw [front, List.append_assoc])
  obtain ⟨u, runLater, passesLater⟩ := continues t left (passes.ample ample)
  refine ⟨u, ?_, passes.trans passesLater⟩
  rw [EStateM.run_bind, run]
  exact runLater

theorem Yields.finish {p : Parser α} {f : α → Parser β} {value : α} {result : β}
    (yields : Yields p tokens value rest) (continues : Yields (f value) [] result rest) :
    Yields (p >>= f) tokens result rest := by
  have whole : Yields (p >>= f) (tokens ++ []) result rest := Yields.bind yields continues
  rwa [List.append_nil] at whole

theorem Yields.token {p : Parser α} {f : α → Parser β} {token : Token} {value : α} {result : β}
    (yields : Yields p [token] value (tokens ++ rest))
    (continues : Yields (f value) tokens result rest) :
    Yields (p >>= f) (token :: tokens) result rest :=
  Yields.bind yields continues

theorem Yields.look {p : Parser α} {f : α → Parser β} {value : α} {result : β}
    (yields : Yields p [] value (tokens ++ rest))
    (continues : Yields (f value) tokens result rest) :
    Yields (p >>= f) tokens result rest :=
  Yields.bind yields continues

theorem Yields.get {f : State → Parser α} {value : α}
    (continues : ∀ s : State, s.rest = tokens ++ rest → Yields (f s) tokens value rest) :
    Yields (MonadState.get >>= f) tokens value rest :=
  fun s front ample => continues s front s front ample

theorem advance_yields {token : Token} : Yields advance [token] () rest :=
  fun s front _ => ⟨s.next, rfl, .next front⟩

theorem currentLine_yields {token : Token} {more : List Token} (front : tokens = token :: more) :
    Yields currentLine [] token.line tokens := by
  intro s first _
  have line : s.line = token.line := by simp [State.line, first, front]
  exact ⟨s, by rw [run_currentLine, line], .refl s⟩

theorem Yields.currentLine {f : Nat → Parser α} {value : α}
    (continues : ∀ line, Yields (f line) tokens value rest) :
    Yields (Grammar.currentLine >>= f) tokens value rest :=
  fun s => continues s.line s

theorem sees_yields (kind : Token.Kind) (text : String) :
    Yields (sees kind text) [] (tokens.head?.any (·.is kind text)) tokens := by
  intro s front _
  have seen : s.sees kind text = tokens.head?.any (·.is kind text) := by
    simp [State.sees, front]
  exact ⟨s, by rw [run_sees, seen], .refl s⟩

theorem takes_yields {kind : Token.Kind} {text : String} {token : Token}
    (same : token.is kind text) : Yields (takes kind text) [token] true rest := by
  intro s front _
  have seen : s.sees kind text := by simpa [State.sees, front] using same
  exact ⟨s.next, by rw [run_takes, if_pos seen], .next front⟩

theorem takes_passed {kind : Token.Kind} {text : String}
    (other : ¬Begins (·.is kind text) tokens) : Yields (takes kind text) [] false tokens := by
  intro s front _
  have unseen : ¬s.sees kind text := by
    intro seen
    cases tokens with
    | nil => simp [State.sees, front] at seen
    | cons token more =>
      exact other ⟨token, more, rfl, by simpa [State.sees, front] using seen⟩
  exact ⟨s, by rw [run_takes, if_neg unseen], .refl s⟩

theorem run_expect {kind : Token.Kind} {text : String} {token : Token} {s : State}
    (front : s.rest = token :: rest) (same : token.is kind text) :
    (expect kind text).run s = .ok token.line s.next := by
  rw [expect, EStateM.run_bind, EStateM.run_get]
  simp only [front, same, if_true]
  rfl

theorem expect_yields {kind : Token.Kind} {text : String} {token : Token}
    (same : token.is kind text) : Yields (expect kind text) [token] token.line rest :=
  fun s front _ => ⟨s.next, run_expect front same, .next front⟩

theorem expectName_yields {place : NamePlace} {token : Token} (named : token.kind = .identifier) :
    Yields (expectName place) [token] token.text rest := by
  refine Yields.get fun s front => ?_
  simp only [front, List.cons_append, List.nil_append, named, if_true]
  exact Yields.finish advance_yields .pure

theorem expectSemicolon_yields {closing : Closing} {token : Token}
    (stops : token.is .delimiter ";") : Yields (expectSemicolon closing) [token] () rest :=
  Yields.finish (takes_yields stops) .pure

def Closed : List Token → Prop :=
  Begins fun token => token.kind = .delimiter ∧ ¬token.is .delimiter "("

theorem Closed.of_is {token : Token} {text : String} (same : token.is .delimiter text)
    (noOpening : text ≠ "(") (more : List Token) : Closed (token :: more) :=
  ⟨token, more, rfl, (Token.is_iff.mp same).1, by simp [Token.is_of_is same, noOpening]⟩

theorem expectName_covers (place : NamePlace) (follow : List Token → Prop) :
    Covers Identifier follow (expectName place) := by
  rintro _ _ rest ⟨named⟩ -
  exact expectName_yields named

theorem separated_yields {item : Spelling α} {p : Parser α} (covers : Covers item Closed p)
    {values : List α} (spelled : Separated item tokens values) {closing : Token}
    {more : List Token} (closes : closing.is .delimiter ")") (bound : List Token)
    (enough : (tokens ++ closing :: more).length ≤ bound.length) :
    Yields (separated p bound) tokens values (closing :: more) := by
  induction spelled generalizing bound with
  | one only =>
    cases bound with
    | nil => simp at enough
    | cons _ bound =>
      apply Yields.finish (covers _ _ _ only (.of_is closes (by decide) _))
      refine Yields.look (takes_passed ?_) .pure
      rintro ⟨_, _, ⟨⟩, isComma⟩
      simp [Token.is_of_is closes] at isComma
  | more first isComma later ih =>
    cases bound with
    | nil => simp at enough
    | cons _ bound =>
      apply Yields.bind (covers _ _ _ first (.of_is isComma (by decide) _))
      apply Yields.token (takes_yields isComma)
      refine Yields.finish (ih bound ?_) .pure
      simp only [List.length_append, List.length_cons] at enough ⊢
      omega

theorem parenthesized_yields {item : Spelling α} {p : Parser α} (covers : Covers item Closed p)
    (begins : ∀ tokens value, item tokens value → Begins StartsOperand tokens)
    {values : List α} (spelled : Parenthesized item tokens values) :
    Yields (parenthesized p) tokens values rest := by
  cases spelled with
  | @none opening closing opens closes =>
    apply Yields.token (expect_yields opens)
    have listed : Yields (listed p) [] [] (closing :: rest) := by
      apply Yields.look (sees_yields _ _)
      simp only [List.nil_append, List.head?_cons, Option.any_some, closes, if_true]
      exact .pure
    apply Yields.look listed
    exact Yields.token (expect_yields closes) .pure
  | @some opening closing tokens values opens items closes =>
    apply Yields.token (expect_yields opens)
    have start : Begins StartsOperand tokens := by
      cases items with
      | one only => exact begins _ _ only
      | more first => exact (begins _ _ first).append _
    obtain ⟨first, others, rfl, starts⟩ := start
    have noClosing : first.is .delimiter ")" = false := starts.noDelimiter (by decide)
    have listed : Yields (listed p) (first :: others) values (closing :: rest) := by
      apply Yields.look (sees_yields _ _)
      simp only [List.cons_append, List.head?_cons, Option.any_some, noClosing,
        Bool.false_eq_true, if_false]
      refine Yields.get fun s front => ?_
      exact separated_yields covers items closes s.rest (Nat.le_of_eq (by rw [front]))
    apply Yields.bind listed
    exact Yields.token (expect_yields closes) .pure

end

end DrawScript.Grammar
