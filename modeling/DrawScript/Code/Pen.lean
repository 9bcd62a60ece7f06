import DrawScript.Code.Error
import DrawScript.Number
import DrawScript.Script.Expression

set_option autoImplicit false

namespace DrawScript.Code

/-- Brings a colour component into 0 to 255: above 255 it counts down from there, a negative one
loses its sign, and what is still too large becomes 255. -/
def channel (value : Int) : Int :=
  let folded := if 255 < value then 255 - value else value
  let magnitude := if folded < 0 then Number.clampInt64 (-folded) else folded
  min magnitude 255

structure Color where
  red : Int := 0
  green : Int := 0
  blue : Int := 0
  alpha : Int := 255
  deriving DecidableEq, Repr

def Color.channels (c : Color) : List Int := [c.red, c.green, c.blue, c.alpha]

structure Pen where
  color : Color := {}
  thickness : Int := 1
  deriving DecidableEq, Repr

def constant (call : String) (line : Nat) (e : Expr) : Except CodeError Int :=
  match e.constant? with
  | some n => .ok n
  | none => .error ⟨line, .notConstant call⟩

def constants (call : String) (line : Nat) : List Expr → Except CodeError (List Int)
  | [] => .ok []
  | e :: es => do
      let n ← constant call line e
      return n :: (← constants call line es)

/-- The colour of the first four arguments; a missing one counts zero. -/
def colorOf (call : String) (line : Nat) (arguments : List Expr) : Except CodeError Color := do
  let values ← constants call line (arguments.take 4)
  let component (i : Nat) : Int := channel (values.getD i 0)
  return { red := component 0, green := component 1, blue := component 2, alpha := component 3 }

end DrawScript.Code
