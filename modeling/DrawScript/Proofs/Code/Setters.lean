import DrawScript.Proofs.Code.Lowerable
import Mathlib.Data.List.Basic

set_option autoImplicit false

namespace DrawScript

open Catalogue Code

namespace Code

theorem channel_range (value : Int) : 0 ≤ channel value ∧ channel value ≤ 255 := by
  simp only [channel, Number.clampInt64]
  have low : Int64.minValue.toInt = -9223372036854775808 := by decide
  have high : Int64.maxValue.toInt = 9223372036854775807 := by decide
  omega

/-- One component of the colour that these arguments give. A missing one counts zero; one that is
not constant leaves the whole program without code. -/
def component (arguments : List Expr) (i : Nat) : Int :=
  channel ((arguments[i]?.bind Expr.constant?).getD 0)

def Color.ofArguments (arguments : List Expr) : Color where
  red := component arguments 0
  green := component arguments 1
  blue := component arguments 2
  alpha := component arguments 3

theorem getD_constants {call : String} {line : Nat} {arguments : List Expr} {values : List Int}
    (found : constants call line arguments = .ok values) (i : Nat) :
    values.getD i 0 = (arguments[i]?.bind Expr.constant?).getD 0 := by
  induction arguments generalizing values i with
  | nil =>
    cases found
    simp
  | cons e es ih =>
    cases known : e.constant? with
    | none => simp [constants, constant, known, bind, Except.bind] at found
    | some value =>
      cases rest : constants call line es with
      | error error => simp [constants, constant, known, rest, bind, Except.bind] at found
      | ok others =>
        obtain rfl : value :: others = values := by
          simpa [constants, constant, known, rest, bind, Except.bind, pure, Except.pure] using found
        cases i with
        | zero => simp [known]
        | succ i => simpa using ih rest i

theorem colorOf_eq {call : String} {line : Nat} {arguments : List Expr} {color : Color}
    (found : colorOf call line arguments = .ok color) : color = .ofArguments arguments := by
  cases values : constants call line (arguments.take 4) with
  | error error => simp [colorOf, values, bind, Except.bind] at found
  | ok values' =>
    have same (i : Nat) (first : i < 4) : channel (values'.getD i 0) = component arguments i := by
      rw [getD_constants values, List.getElem?_take_of_lt first, component]
    rw [colorOf, values] at found
    cases found
    simp only [Color.ofArguments, ← same 0 (by decide), ← same 1 (by decide), ← same 2 (by decide),
      ← same 3 (by decide)]

end Code

namespace Statement

def setsColor? : Statement → Option Color
  | .expression (.call callee arguments) _ =>
      if callee = "setRGBA" then some (.ofArguments arguments) else none
  | _ => none

def setsThickness? : Statement → Option Int
  | .expression (.call callee arguments) _ =>
      if callee = "setThickness" then arguments.head?.bind Expr.constant? else none
  | _ => none

def isDrawing : Statement → Bool
  | .expression (.call callee _) _ =>
      (drawFunction? callee).any fun function => !function.action.needsConstants
  | .method _ name _ _ => (cursorMethod? name).any fun method => method.action = .draw
  | _ => false

end Statement

namespace Code

/-- The pen behind these statements: the last setter of each kind counts. -/
def Pen.after (before : List Statement) : Pen where
  color := (before.reverse.findSome? Statement.setsColor?).getD {}
  thickness := (before.reverse.findSome? Statement.setsThickness?).getD 1

-- The statements, each with the pen it finds.
def visits (before : List Statement) : List Statement → List (Pen × Statement)
  | [] => []
  | s :: ss => (Pen.after before, s) :: visits (before ++ [s]) ss

theorem visits_append (before ss others : List Statement) :
    visits before (ss ++ others) = visits before ss ++ visits (before ++ ss) others := by
  induction ss generalizing before with
  | nil => simp [visits]
  | cons s ss ih => simp [visits, ih]

theorem visits_snd (before ss : List Statement) : (visits before ss).map Prod.snd = ss := by
  induction ss generalizing before with
  | nil => rfl
  | cons s ss ih => simp [visits, ih]

theorem filter_visits_snd (chosen : Statement → Bool) (before ss : List Statement) :
    ((visits before ss).filter (chosen ·.2)).map Prod.snd = ss.filter chosen := by
  have whole := congrArg (List.filter chosen) (visits_snd before ss)
  rwa [List.filter_map] at whole

theorem pen_of_mem_visits {before ss : List Statement} {visit : Pen × Statement}
    (member : visit ∈ visits before ss) : ∃ earlier, visit.1 = Pen.after earlier := by
  induction ss generalizing before with
  | nil => cases member
  | cons s ss ih =>
    rcases List.mem_cons.mp member with rfl | later
    next => exact ⟨before, rfl⟩
    next => exact ih later

theorem Color.ofArguments_range (arguments : List Expr) :
    ∀ value ∈ (ofArguments arguments).channels, 0 ≤ value ∧ value ≤ 255 := by
  simp [ofArguments, channels, component, channel_range]

theorem Pen.after_range (before : List Statement) :
    ∀ value ∈ (Pen.after before).color.channels, 0 ≤ value ∧ value ≤ 255 := by
  simp only [Pen.after]
  cases found : before.reverse.findSome? Statement.setsColor? with
  | none =>
    rw [Option.getD_none]
    decide
  | some color =>
    obtain ⟨s, -, sets⟩ := List.exists_of_findSome?_eq_some found
    unfold Statement.setsColor? at sets
    split at sets
    next arguments line =>
      split at sets
      next =>
        cases sets
        exact Color.ofArguments_range arguments
      next => cases sets
    next => cases sets

def Pen.step (pen : Pen) (s : Statement) : Pen where
  color := s.setsColor?.getD pen.color
  thickness := s.setsThickness?.getD pen.thickness

theorem getD_last_concat {α : Type} (sets : Statement → Option α) (first : α)
    (before : List Statement) (s : Statement) :
    ((before ++ [s]).reverse.findSome? sets).getD first =
      (sets s).getD ((before.reverse.findSome? sets).getD first) := by
  rw [List.reverse_concat, List.findSome?_cons]
  cases sets s <;> rfl

theorem Pen.after_concat (before : List Statement) (s : Statement) :
    Pen.after (before ++ [s]) = (Pen.after before).step s := by
  rw [Pen.after, getD_last_concat, getD_last_concat]
  rfl

end Code

end DrawScript
