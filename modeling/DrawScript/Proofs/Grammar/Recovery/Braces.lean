import DrawScript.Proofs.Grammar.Recovery.Statement

set_option autoImplicit false

namespace DrawScript.Grammar

def braceStep (depth : Nat) (token : Token) : Nat :=
  if token.is .delimiter "\x7b" then depth + 1
  else if token.is .delimiter "\x7d" then depth - 1
  else depth

def braceDepth (depth : Nat) (tokens : List Token) : Nat := tokens.foldl braceStep depth

theorem braceDepth_append (depth : Nat) (tokens others : List Token) :
    braceDepth depth (tokens ++ others) = braceDepth (braceDepth depth tokens) others :=
  List.foldl_append

theorem braceDepth_mono {depth deeper : Nat} (le : depth ≤ deeper) (tokens : List Token) :
    braceDepth depth tokens ≤ braceDepth deeper tokens := by
  induction tokens generalizing depth deeper with
  | nil => exact le
  | cons token tokens ih =>
    apply ih
    simp only [braceStep]
    split
    next => omega
    next => split <;> omega

def Cause.isUnclosed : Cause → Bool
  | .unclosed _ _ => true
  | _ => false

/-- With `before` braces open at `s`, at least `after` are open at `t`, no matter how many more are
open around them; and no error in between is about an unclosed construct. -/
structure State.Climbs (before after : Nat) (s t : State) : Prop where
  braces : ∃ taken, s.Reaches taken t ∧
    ∀ depth, depth + after ≤ braceDepth (depth + before) taken
  errors : ∃ new, t.reported = new ++ s.reported ∧ ∀ error ∈ new, error.cause.isUnclosed = false

namespace State.Climbs

variable {s t u : State} {before between after : Nat}

theorem refl (s : State) : s.Climbs before before s :=
  ⟨⟨[], .refl s, fun _ => Nat.le_refl _⟩, [], rfl, by simp⟩

theorem trans (first : s.Climbs before between t) (second : t.Climbs between after u) :
    s.Climbs before after u := by
  obtain ⟨⟨taken, reaches, bound⟩, new, reported, others⟩ := first
  obtain ⟨⟨later, reachesLater, boundLater⟩, newer, reportedLater, othersLater⟩ := second
  constructor
  next =>
    refine ⟨taken ++ later, reaches.trans reachesLater, fun depth => ?_⟩
    rw [braceDepth_append]
    exact Nat.le_trans (boundLater depth) (braceDepth_mono (bound depth) later)
  next =>
    refine ⟨newer ++ new, by rw [reportedLater, reported, List.append_assoc], ?_⟩
    intro error member
    exact (List.mem_append.mp member).elim (othersLater error) (others error)

theorem raise (climbs : s.Climbs before after t) (more : Nat) :
    s.Climbs (before + more) (after + more) t := by
  obtain ⟨⟨taken, reaches, bound⟩, errors⟩ := climbs
  refine ⟨⟨taken, reaches, fun depth => ?_⟩, errors⟩
  have higher := bound (depth + more)
  rw [Nat.add_right_comm, Nat.add_right_comm depth more before] at higher
  rwa [← Nat.add_assoc, ← Nat.add_assoc]

theorem lower (climbs : s.Climbs before after t) {less : Nat} (le : less ≤ after) :
    s.Climbs before less t := by
  obtain ⟨⟨taken, reaches, bound⟩, errors⟩ := climbs
  exact ⟨⟨taken, reaches, fun depth => by have := bound depth; omega⟩, errors⟩

section

variable {token : Token} {rest : List Token} (front : s.rest = token :: rest)

include front

theorem taken (bound : ∀ depth, depth + after ≤ braceStep (depth + before) token) :
    s.Climbs before after s.next :=
  ⟨⟨[token], .next front, bound⟩, [], by simp [State.next, front], by simp⟩

theorem next (noClosing : ¬token.is .delimiter "\x7d") : s.Climbs 0 0 s.next := by
  refine taken front fun depth => ?_
  rw [braceStep, if_neg noClosing]
  split <;> omega

theorem opening (opens : token.is .delimiter "\x7b") : s.Climbs 0 1 s.next :=
  taken front fun _ => Nat.le_of_eq (if_pos opens).symm

theorem closing (closes : token.is .delimiter "\x7d") : s.Climbs 1 0 s.next := by
  refine taken front fun depth => ?_
  simp [braceStep, Token.is_of_is closes]

end

end State.Climbs

/-- The end of a run that started at `s` with `before` braces open. Unless it has failed, `after`
are open; if it has halted, one of them is. -/
def Guarded {α : Type} (before after : Nat) (s : State) : EStateM.Result Failure State α → Prop
  | .ok _ t => s.Climbs before after t
  | .error (.rejected error) t => s.Climbs before 0 t ∧ error.cause.isUnclosed = false
  | .error (.halted _) t => s.Climbs before 1 t

def GuardsFrom {α : Type} (before after : Nat) (s : State) (p : Parser α) : Prop :=
  Guarded before after s (p.run s)

def Guards {α : Type} (p : Parser α) : Prop := ∀ s, GuardsFrom 0 0 s p

section

variable {α β : Type} {before between after : Nat} {s t : State} {p : Parser α} {f : α → Parser β}

theorem Guarded.prepend {result : EStateM.Result Failure State α}
    (guarded : Guarded between after t result) (climbs : s.Climbs before between t) :
    Guarded before after s result := by
  cases result with
  | ok value u => exact climbs.trans guarded
  | error failure u =>
    cases failure with
    | rejected error => exact ⟨climbs.trans guarded.1, guarded.2⟩
    | halted error => exact climbs.trans guarded

theorem GuardsFrom.andThen (first : GuardsFrom before between s p)
    (later : ∀ value t, GuardsFrom between after t (f value)) :
    GuardsFrom before after s (p >>= f) := by
  simp only [GuardsFrom, EStateM.run_bind] at first ⊢
  cases run : p.run s with
  | ok value t =>
    rw [run] at first
    exact (later value t).prepend first
  | error failure t =>
    rw [run] at first
    cases failure <;> exact first

theorem GuardsFrom.bind (first : GuardsFrom before 0 s p) (later : ∀ value, Guards (f value)) :
    GuardsFrom before 0 s (p >>= f) :=
  first.andThen later

theorem Guards.pure (value : α) : Guards (pure value) := fun s => .refl s

end

theorem Guards.fail {α : Type} {line : Nat} {cause : Cause} (other : cause.halts = false) :
    Guards (fail line cause : Parser α) := by
  refine fun s => ⟨.refl s, ?_⟩
  cases cause with
  | unclosed => cases other
  | _ => rfl

theorem guards_stepwise :
    StatementStepwise (fun _ s p => GuardsFrom 0 0 s p) (fun _ s p => GuardsFrom 0 0 s p)
      (fun _ _ => True) (fun _ => True) fun _ => True := by
  refine Stepwise.statements ?_ fun closing s => Guards.fail rfl s
  exact {
    weaken := fun holds _ => holds
    stay := Guards.pure
    append := fun first later => first.andThen fun value t => later value t fun _ _ => trivial
    blames := fun _ => trivial
    reject := fun other _ => Guards.fail other _
    look := fun _ holds => holds
    take := .next }

end DrawScript.Grammar
