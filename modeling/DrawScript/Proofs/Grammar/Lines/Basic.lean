import DrawScript.Proofs.Grammar.Completeness.Basic
import DrawScript.Proofs.Grammar.Recovery.Statement

set_option autoImplicit false

namespace DrawScript.Grammar

def LineAt (tokens : List Token) (index line : Nat) : Prop :=
  (tokens.map Token.line)[index]? = some line

theorem LineAt.le {tokens : List Token} {i j a b : Nat}
    (sorted : (tokens.map Token.line).Pairwise (· ≤ ·)) (first : LineAt tokens i a)
    (second : LineAt tokens j b) (le : i ≤ j) : a ≤ b := by
  obtain ⟨_, rfl⟩ := List.getElem?_eq_some_iff.mp first
  obtain ⟨within, rfl⟩ := List.getElem?_eq_some_iff.mp second
  rcases Nat.eq_or_lt_of_le le with rfl | lt
  next => exact Nat.le_refl _
  next => exact List.pairwise_iff_getElem.mp sorted i j _ within lt

/-- Errors with the latest first, each blamed on a token: the latest not behind the one with index
`bound`, every other not behind that of the error reported next. -/
inductive Trail (tokens : List Token) : (bound : Nat) → List GrammarError → Prop
  | nil {bound : Nat} : Trail tokens bound []
  | cons {bound index : Nat} {error : GrammarError} {earlier : List GrammarError}
      (le : index ≤ bound) (blamed : LineAt tokens index error.line)
      (trail : Trail tokens index earlier) : Trail tokens bound (error :: earlier)

namespace Trail

variable {tokens : List Token} {bound higher : Nat} {reported : List GrammarError}

theorem mono (trail : Trail tokens bound reported) (le : bound ≤ higher) :
    Trail tokens higher reported := by
  cases trail with
  | nil => exact .nil
  | cons within blamed earlier => exact .cons (Nat.le_trans within le) blamed earlier

theorem blamed (trail : Trail tokens bound reported) {error : GrammarError}
    (member : error ∈ reported) : ∃ index ≤ bound, LineAt tokens index error.line := by
  induction trail with
  | nil => exact absurd member List.not_mem_nil
  | cons within blamed _ ih =>
    rcases List.mem_cons.mp member with rfl | earlier
    next => exact ⟨_, within, blamed⟩
    next =>
      obtain ⟨index, le, found⟩ := ih earlier
      exact ⟨index, Nat.le_trans le within, found⟩

theorem sorted (trail : Trail tokens bound reported)
    (inOrder : (tokens.map Token.line).Pairwise (· ≤ ·)) :
    (reported.reverse.map (·.line)).Pairwise (· ≤ ·) := by
  rw [List.pairwise_map, List.pairwise_reverse]
  induction trail with
  | nil => exact .nil
  | cons _ blamed trail ih =>
    refine .cons (fun error earlier => ?_) ih
    obtain ⟨index, le, found⟩ := trail.blamed earlier
    exact found.le inOrder blamed le

end Trail

/-- Part of the tokens has been read, and the errors so far are blamed on tokens up to the one with
index `low`. That one may be the next. -/
structure Stands (tokens : List Token) (low : Nat) (s : State) : Prop where
  reached : ∃ limit before, State.Reaches { rest := tokens, limit := limit } before s
  trail : Trail tokens low s.reported
  behind : low ≤ s.position
  inside : low < tokens.length

def Blamed (tokens : List Token) (s : State) (line : Nat) : Prop :=
  ∃ index, Stands tokens index s ∧ LineAt tokens index line

def Placed (tokens : List Token) (s : State) : Prop := ∃ low, Stands tokens low s

/-- No error is blamed on a token behind the one taken last, so that one may be blamed next. -/
def Ahead (tokens : List Token) (s : State) : Prop := ∃ low, Stands tokens low s ∧ low < s.position

section

variable {tokens taken : List Token} {low blame : Nat} {s t : State}

theorem Stands.read (stands : Stands tokens low s) :
    ∃ before, tokens = before ++ s.rest ∧ s.position = before.length ∧
      s.previous = (before.getLast?.map Token.line).getD 1 := by
  obtain ⟨limit, before, reached⟩ := stands.reached
  exact ⟨before, reached.rest, by simpa using reached.position, reached.previous⟩

theorem Stands.raise {high : Nat} (stands : Stands tokens low s) (le : low ≤ high)
    (behind : high ≤ s.position) (inside : high < tokens.length) : Stands tokens high s :=
  ⟨stands.reached, stands.trail.mono le, behind, inside⟩

theorem Stands.move (stands : Stands tokens low s) (reaches : s.Reaches taken t)
    (same : t.reported = s.reported) : Stands tokens low t where
  reached := by
    obtain ⟨limit, before, reached⟩ := stands.reached
    exact ⟨limit, _, reached.trans reaches⟩
  trail := by
    rw [same]
    exact stands.trail
  behind := by
    have behind := stands.behind
    rw [reaches.position]
    omega
  inside := stands.inside

theorem Stands.report {error : GrammarError} (stands : Stands tokens low s)
    (blamed : LineAt tokens low error.line) : Stands tokens low (s.report error) where
  reached := by
    obtain ⟨limit, before, reached⟩ := stands.reached
    exact ⟨limit, _, reached.trans (.report s error)⟩
  trail := .cons (Nat.le_refl low) blamed stands.trail
  behind := stands.behind
  inside := stands.inside

theorem Placed.move (placed : Placed tokens s) (reaches : s.Reaches taken t)
    (same : t.reported = s.reported) : Placed tokens t := by
  obtain ⟨low, stands⟩ := placed
  exact ⟨low, stands.move reaches same⟩

theorem Blamed.mem (blamed : Blamed tokens s blame) : blame ∈ tokens.map Token.line := by
  obtain ⟨index, -, found⟩ := blamed
  exact List.mem_of_getElem? found

theorem Ahead.placed (ahead : Ahead tokens s) : Placed tokens s := by
  obtain ⟨low, stands, -⟩ := ahead
  exact ⟨low, stands⟩

theorem Ahead.previous (ahead : Ahead tokens s) : Blamed tokens s s.previous := by
  obtain ⟨low, stands, past⟩ := ahead
  obtain ⟨before, whole, read, previous⟩ := stands.read
  rcases List.eq_nil_or_concat before with rfl | ⟨earlier, last, rfl⟩
  next =>
    rw [read] at past
    cases past
  next =>
    have named : s.previous = last.line := by simpa using previous
    rw [List.length_concat] at read
    refine ⟨earlier.length, stands.raise (by omega) (by omega) ?_, ?_⟩
    next =>
      rw [whole]
      simp
    next =>
      rw [LineAt, whole, named]
      simp

theorem Placed.ahead (placed : Placed tokens s) (ended : s.rest = []) : Ahead tokens s := by
  obtain ⟨low, stands⟩ := placed
  obtain ⟨before, whole, read, -⟩ := stands.read
  have inside := stands.inside
  rw [whole, ended, List.append_nil] at inside
  exact ⟨low, stands, by omega⟩

theorem Placed.here (placed : Placed tokens s) {token : Token} {rest : List Token}
    (front : s.rest = token :: rest) : Blamed tokens s token.line := by
  obtain ⟨low, stands⟩ := placed
  obtain ⟨before, whole, read, -⟩ := stands.read
  rw [front] at whole
  refine ⟨s.position, stands.raise stands.behind (Nat.le_refl _) ?_, ?_⟩
  next => simp [whole, read]
  next => simp [LineAt, whole, read]

theorem Placed.line (placed : Placed tokens s) : Blamed tokens s s.line := by
  cases front : s.rest with
  | nil =>
    rw [State.line, front]
    exact (placed.ahead front).previous
  | cons token rest =>
    rw [State.line, front]
    exact placed.here front

theorem Blamed.passes (blamed : Blamed tokens s blame) (passes : s.Passes taken t) :
    Blamed tokens t blame := by
  obtain ⟨index, stands, found⟩ := blamed
  exact ⟨index, stands.move passes.toReaches passes.silent, found⟩

theorem Placed.passes (placed : Placed tokens s) (passes : s.Passes taken t) : Placed tokens t :=
  placed.move passes.toReaches passes.silent

end

/-- What a failure names: a rejection a line that it may be blamed on, an unclosed block the line of
its construct, which may lie far behind. -/
def Excused (tokens : List Token) : Failure → State → Prop
  | .rejected error, t => Blamed tokens t error.line
  | .halted error, t => Placed tokens t ∧ error.line ∈ tokens.map Token.line ∧
      ∃ construct, error.cause = .unclosed construct error.line

def Tracks {α : Type} (tokens : List Token) (s : State) (p : Parser α)
    (post : State → α → Prop) : Prop :=
  match p.run s with
  | .ok value t => post t value
  | .error failure t => Excused tokens failure t

namespace Tracks

variable {α β : Type} {tokens : List Token} {s : State} {p : Parser α} {f : α → Parser β}
  {mid other : State → α → Prop} {post : State → β → Prop}

protected theorem bind (first : Tracks tokens s p mid)
    (later : ∀ t value, mid t value → Tracks tokens t (f value) post) :
    Tracks tokens s (p >>= f) post := by
  rw [Tracks, EStateM.run_bind]
  rw [Tracks] at first
  cases run : p.run s with
  | ok value t =>
    rw [run] at first
    exact later t value first
  | error failure t =>
    rw [run] at first
    exact first

theorem mono (tracks : Tracks tokens s p mid) (weaker : ∀ t value, mid t value → other t value) :
    Tracks tokens s p other := by
  rw [Tracks] at tracks ⊢
  cases run : p.run s with
  | ok value t =>
    rw [run] at tracks
    exact weaker t value tracks
  | error failure t =>
    rw [run] at tracks
    exact tracks

end Tracks

def QuietFrom {α : Type} (tokens : List Token) (least : Nat) (s : State) (p : Parser α) : Prop :=
  Tracks tokens s p fun t _ => ∃ taken, s.Passes taken t ∧ least ≤ taken.length

theorem quiet_stepwise (tokens : List Token) :
    Stepwise (fun least s p => Placed tokens s → QuietFrom tokens least s p)
      fun s line => Placed tokens s → Blamed tokens s line where
  weaken quiet fewer placed := by
    refine (quiet placed).mono ?_
    rintro t _ ⟨taken, passes, enough⟩
    exact ⟨taken, passes, Nat.le_trans fewer enough⟩
  stay _ s _ := ⟨[], .refl s, Nat.le_refl 0⟩
  append first later placed := by
    refine (first placed).bind ?_
    rintro t value ⟨taken, passes, enough⟩
    -- Nothing was reported, so what could be blamed still can.
    have next := later value t (fun _ blamed _ => (blamed placed).passes passes)
      (placed.passes passes)
    refine next.mono ?_
    rintro u _ ⟨further, passesOn, enoughOn⟩
    refine ⟨_, passes.trans passesOn, ?_⟩
    rw [List.length_append]
    omega
  blames _ := Placed.line
  reject _ blamed := blamed
  look _ quiet := quiet
  take front _ _ := ⟨_, .next front, Nat.le_refl 1⟩

theorem Placed.passed {tokens taken : List Token} {least : Nat} {s t : State}
    (placed : Placed tokens s) (passes : s.Passes taken t) (enough : least ≤ taken.length) :
    Placed tokens t ∧ (Ahead tokens s ∨ 0 < least → Ahead tokens t) := by
  refine ⟨placed.passes passes, fun known => ?_⟩
  have further := passes.position
  rcases known with ⟨low, stands, past⟩ | some
  next => exact ⟨low, stands.move passes.toReaches passes.silent, by omega⟩
  next =>
    obtain ⟨low, stands⟩ := placed
    have behind := stands.behind
    exact ⟨low, stands.move passes.toReaches passes.silent, by omega⟩

/-- From `s` the parser fails with an excuse, or reading is ahead once a token has been taken. -/
def Accounts {α : Type} (tokens : List Token) (least : Nat) (s : State) (p : Parser α) : Prop :=
  Placed tokens s → Tracks tokens s p fun t _ =>
    Placed tokens t ∧ (Ahead tokens s ∨ 0 < least → Ahead tokens t)

theorem accounts_stepwise (tokens : List Token) :
    StatementStepwise (fun least s p => Placed tokens s → QuietFrom tokens least s p)
      (Accounts tokens) (fun s line => Placed tokens s → Blamed tokens s line) (Ahead tokens)
      (· ∈ tokens.map Token.line) where
  toStepwise := quiet_stepwise tokens
  remain _ _ placed := ⟨placed, fun known => known.resolve_right (Nat.lt_irrefl 0)⟩
  lessen accounts fewer placed := by
    refine (accounts placed).mono fun t _ result => ⟨result.1, fun known => ?_⟩
    exact result.2 (known.imp_right fun some => Nat.lt_of_lt_of_le some fewer)
  quietly first later placed := by
    refine (first placed).bind ?_
    rintro t value ⟨taken, passes, enough⟩
    have passed := placed.passed passes enough
    have next := later value t (fun _ blamed _ => (blamed placed).passes passes) passed.2 passed.1
    refine next.mono fun u _ result => ⟨result.1, fun known => result.2 ?_⟩
    rw [Nat.add_pos_iff_pos_or_pos, ← or_assoc] at known
    exact known.imp_left passed.2
  follow first later placed := by
    refine (first placed).bind fun t value passed => ?_
    have next := later value t passed.2 passed.1
    refine next.mono fun u _ result => ⟨result.1, fun known => result.2 ?_⟩
    rw [Nat.add_pos_iff_pos_or_pos, ← or_assoc] at known
    exact known.imp_left passed.2
  glance _ accounts := accounts
  know accounts placed := accounts placed.line.mem placed
  missing _ ahead _ := ahead.previous

end DrawScript.Grammar
