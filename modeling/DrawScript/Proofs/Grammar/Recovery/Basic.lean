import DrawScript.Proofs.Grammar.Completeness.Basic
import DrawScript.Proofs.Grammar.Recovery.Statement
import Mathlib.Logic.Relation

set_option autoImplicit false

namespace DrawScript.Grammar

namespace State

def count (s : State) : State := { s with steps := s.steps + 1 }

def unlimited (s : State) : State := { s with limit := none }

theorem next_unlimited (s : State) : s.unlimited.next = s.next.unlimited := by
  simp only [next, unlimited]
  split <;> rfl

def after {α : Type} (s : State) (p : Parser α) : State :=
  match p.run s with
  | .ok _ t | .error _ t => t

inductive Move : State → State → Prop where
  | take {s : State} (more : s.rest ≠ []) : Move s s.next
  | count (s : State) : Move s s.count
  | report (s : State) {error : GrammarError} (other : error.cause ≠ .stepLimit) :
      Move s (s.report error)

def Moves : State → State → Prop := Relation.ReflTransGen Move

variable {s t u : State}

theorem Moves.refl (s : State) : s.Moves s := Relation.ReflTransGen.refl

theorem Moves.trans (first : s.Moves t) (second : t.Moves u) : s.Moves u :=
  Relation.ReflTransGen.trans first second

theorem Move.moves (move : s.Move t) : s.Moves t := Relation.ReflTransGen.single move

theorem Reaches.count (s : State) : s.Reaches [] s.count :=
  ⟨rfl, rfl, rfl, rfl, List.suffix_refl _⟩

theorem Moves.reaches (moves : s.Moves t) : ∃ taken, s.Reaches taken t := by
  induction moves with
  | refl => exact ⟨[], .refl s⟩
  | tail _ move ih =>
    obtain ⟨taken, reaches⟩ := ih
    cases move with
    | take more =>
      obtain ⟨token, rest, front⟩ := List.exists_cons_of_ne_nil more
      exact ⟨_, reaches.trans (.next front)⟩
    | count => exact ⟨_, reaches.trans (.count _)⟩
    | report => exact ⟨_, reaches.trans (.report _ _)⟩

theorem Moves.limit_eq (moves : s.Moves t) : t.limit = s.limit := by
  obtain ⟨taken, reaches⟩ := moves.reaches
  exact reaches.limit

theorem Moves.position_le (moves : s.Moves t) : s.position ≤ t.position := by
  obtain ⟨taken, reaches⟩ := moves.reaches
  rw [reaches.position]
  omega

theorem Moves.left (moves : s.Moves t) :
    t.position + t.rest.length = s.position + s.rest.length := by
  obtain ⟨taken, reaches⟩ := moves.reaches
  rw [reaches.position, reaches.rest, List.length_append]
  omega

theorem Moves.reported (moves : s.Moves t) {error : GrammarError} (member : error ∈ t.reported) :
    error ∈ s.reported ∨ error.cause ≠ .stepLimit := by
  induction moves with
  | refl => exact .inl member
  | tail _ move ih =>
    cases move with
    | take more =>
      obtain ⟨token, rest, front⟩ := List.exists_cons_of_ne_nil more
      exact ih (by simpa [next, front] using member)
    | count => exact ih member
    | report other =>
      rcases List.mem_cons.mp member with rfl | earlier
      next => exact .inr other
      next => exact ih earlier

/-- Moves that cost little: an error for no more than each statement counted, and under an ample
limit a statement for no more than each token taken behind the first `spare`. -/
structure Leads (spare : Nat) (s t : State) : Prop where
  moves : s.Moves t
  errors : t.reported.length + s.steps ≤ s.reported.length + t.steps
  steps : s.Ample spare → t.steps ≤ s.steps + (t.position - s.position - spare)

namespace Leads

variable {spare inner least : Nat}

theorem refl (s : State) : s.Leads spare s :=
  ⟨.refl s, Nat.le_refl _, fun _ => Nat.le_add_right _ _⟩

theorem next {token : Token} {rest : List Token} (front : s.rest = token :: rest) :
    s.Leads spare s.next where
  moves := (Move.take (by simp [front])).moves
  errors := by simp [State.next, front]
  steps := by simp [State.next, front]

theorem ample (leads : s.Leads spare t) (took : s.position + least ≤ t.position)
    (enough : spare ≤ inner + least) (ample : s.Ample spare) : t.Ample inner := by
  intro limit member
  have few := leads.steps ample
  have left := leads.moves.left
  have within := ample limit (leads.moves.limit_eq ▸ member)
  omega

theorem trans (first : s.Leads spare t) (took : s.position + least ≤ t.position)
    (enough : spare ≤ inner + least) (second : t.Leads inner u) : s.Leads spare u where
  moves := first.moves.trans second.moves
  errors := by
    have few := first.errors
    have fewLater := second.errors
    omega
  steps := by
    intro ample
    have few := first.steps ample
    have fewLater := second.steps (first.ample took enough ample)
    have forward := second.moves.position_le
    omega

end Leads

end State

/-- The end of a run from `s` that takes `least` tokens if it succeeds. A run that halts has gone
past the first `spare` of them and, under an ample limit, through the last. -/
def Ends {α : Type} (spare least : Nat) (s : State) : EStateM.Result Failure State α → Prop
  | .ok _ t => s.Leads spare t ∧ s.position + least ≤ t.position
  | .error (.rejected error) t => s.Leads spare t ∧ error.cause ≠ .stepLimit
  | .error (.halted error) t =>
      s.Leads spare t ∧ error.cause ≠ .stepLimit ∧ s.position + spare ≤ t.position ∧
        (s.Ample spare → t.rest = [])

def unlimitedResult {α : Type} :
    EStateM.Result Failure State α → EStateM.Result Failure State α
  | .ok value t => .ok value t.unlimited
  | .error failure t => .error failure t.unlimited

structure SteadyFrom {α : Type} (spare least : Nat) (s : State) (p : Parser α) : Prop where
  ends : Ends spare least s (p.run s)
  unlimited : s.Ample spare → p.run s.unlimited = unlimitedResult (p.run s)

def Steady {α : Type} (least : Nat) (p : Parser α) : Prop := ∀ s, SteadyFrom 1 least s p

section

variable {α β : Type} {spare inner least more : Nat} {s t : State} {p : Parser α}
  {f : α → Parser β}

theorem Ends.weaken {result : EStateM.Result Failure State α} (ends : Ends spare least s result)
    (fewer : more ≤ least) : Ends spare more s result := by
  cases result with
  | ok value u => exact ⟨ends.1, by have := ends.2; omega⟩
  | error failure u => cases failure <;> exact ends

theorem Ends.prepend {result : EStateM.Result Failure State α} (ends : Ends inner more t result)
    (leads : s.Leads spare t) (took : s.position + least ≤ t.position)
    (enough : spare ≤ inner + least) : Ends spare (least + more) s result := by
  cases result with
  | ok value u =>
    obtain ⟨further, tookMore⟩ := ends
    exact ⟨leads.trans took enough further, by omega⟩
  | error failure u =>
    cases failure with
    | rejected error =>
      obtain ⟨further, other⟩ := ends
      exact ⟨leads.trans took enough further, other⟩
    | halted error =>
      obtain ⟨further, other, past, exhausted⟩ := ends
      exact ⟨leads.trans took enough further, other, by omega,
        fun ample => exhausted (leads.ample took enough ample)⟩

theorem SteadyFrom.weaken (steady : SteadyFrom spare least s p) (fewer : more ≤ least) :
    SteadyFrom spare more s p :=
  ⟨steady.ends.weaken fewer, steady.unlimited⟩

theorem SteadyFrom.congr {q : Parser α} (steady : SteadyFrom spare least s p)
    (same : q.run s = p.run s) (sameUnlimited : q.run s.unlimited = p.run s.unlimited) :
    SteadyFrom spare least s q := by
  constructor
  next =>
    rw [same]
    exact steady.ends
  next =>
    intro ample
    rw [same, sameUnlimited, steady.unlimited ample]

theorem SteadyFrom.append (first : SteadyFrom spare least s p) (enough : spare ≤ inner + least)
    (later : ∀ value t, s.Moves t → s.position + least ≤ t.position →
      SteadyFrom inner more t (f value)) :
    SteadyFrom spare (least + more) s (p >>= f) := by
  -- What the first part takes makes up for the tokens that the second one does not spare.
  obtain ⟨ends, unlimited⟩ := first
  cases run : p.run s with
  | error failure t =>
    rw [run] at ends unlimited
    refine ⟨?_, fun ample => ?_⟩
    next =>
      rw [EStateM.run_bind, run]
      cases failure <;> exact ends
    next =>
      rw [EStateM.run_bind, EStateM.run_bind, unlimited ample, run]
      rfl
  | ok value t =>
    rw [run] at ends unlimited
    obtain ⟨leads, took⟩ := ends
    have next := later value t leads.moves took
    refine ⟨?_, fun ample => ?_⟩
    next =>
      rw [EStateM.run_bind, run]
      exact next.ends.prepend leads took enough
    next =>
      rw [EStateM.run_bind, EStateM.run_bind, unlimited ample, run]
      exact next.unlimited (leads.ample took enough ample)

theorem SteadyFrom.andThen (first : SteadyFrom spare least s p) (enough : spare ≤ inner + least)
    (later : ∀ value t, s.Moves t → s.position + least ≤ t.position →
      SteadyFrom inner 0 t (f value)) : SteadyFrom spare least s (p >>= f) :=
  first.append enough later

theorem SteadyFrom.stay (value : α) : SteadyFrom spare 0 s (pure value) :=
  ⟨⟨.refl s, Nat.le_refl _⟩, fun _ => rfl⟩

theorem SteadyFrom.get {f : State → Parser α} (same : f s.unlimited = f s)
    (later : SteadyFrom spare least s (f s)) :
    SteadyFrom spare least s (MonadState.get >>= f) := by
  refine ⟨later.ends, fun ample => ?_⟩
  change (f s.unlimited).run s.unlimited = _
  rw [same]
  exact later.unlimited ample

end

section

variable {α : Type} {spare least : Nat} {s : State}

theorem advance_steadyFrom {token : Token} {rest : List Token}
    (front : s.rest = token :: rest) : SteadyFrom spare 1 s advance where
  ends := ⟨.next front, by simp [State.next, front]⟩
  unlimited := by
    intro ample
    rw [run_advance, run_advance, State.next_unlimited]
    rfl

theorem SteadyFrom.takes {kind : Token.Kind} {text : String} {f : Bool → Parser α}
    (taken : ∀ t, SteadyFrom spare 0 t (f true)) (left : SteadyFrom spare least s (f false))
    (fewer : least ≤ 1) : SteadyFrom spare least s (takes kind text >>= f) := by
  rw [takes_bind]
  refine .get rfl ?_
  split
  next seen =>
    cases front : s.rest with
    | nil => simp [State.sees, front] at seen
    | cons token rest =>
      have steady : SteadyFrom spare 1 s (advance >>= fun _ => f true) :=
        (advance_steadyFrom front).andThen (Nat.le_add_right spare 1) fun _ t _ _ => taken t
      exact steady.weaken fewer
  next => exact left

end

theorem fail_steadyFrom {α : Type} {spare least line : Nat} {cause : Cause}
    (other : cause.halts = false) (s : State) :
    SteadyFrom spare least s (fail line cause : Parser α) := by
  refine ⟨⟨.refl s, ?_⟩, fun _ => rfl⟩
  rintro rfl
  cases other

theorem steady_stepwise :
    StatementStepwise (SteadyFrom 1) (SteadyFrom 1) (fun _ _ => True) (fun _ => True)
      fun _ => True := by
  refine Stepwise.statements ?_ fun closing s => .get rfl (fail_steadyFrom rfl s)
  exact {
    weaken := SteadyFrom.weaken
    stay := fun value _ => .stay value
    append := fun first later =>
      first.append (Nat.le_add_right 1 _) fun value t _ _ => later value t fun _ _ => trivial
    blames := fun _ => trivial
    reject := fun other _ => fail_steadyFrom other _
    look := fun same => .get (same _ ⟨rfl, rfl⟩)
    take := fun front _ => advance_steadyFrom front }

end DrawScript.Grammar
