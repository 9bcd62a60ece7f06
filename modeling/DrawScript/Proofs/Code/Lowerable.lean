import DrawScript.Code.Program
import DrawScript.Proofs.Script.Walk

set_option autoImplicit false

namespace DrawScript

open Catalogue Code

def Expr.IsDrawing : Expr → Prop
  | .call callee _ => (drawFunction? callee).isSome
  | _ => False

def Expr.DrawsNothing (e : Expr) : Prop := ∀ x ∈ e.parts, ¬ x.IsDrawing

namespace Statement

def initialValues : Option Statement → List Expr
  | some (.expression value _) => [value]
  | _ => []

/-- The expressions of a statement that are used for their value. A call that is a whole statement
is not, but its arguments are. -/
def values : Statement → List Expr
  | .var _ _ initial _ => [initial]
  | .cursor _ arguments _ | .method _ _ arguments _ => arguments
  | .ifElse condition _ _ _ | .whileLoop condition _ _ | .doWhile _ condition _ => [condition]
  | .forLoop initial condition increment _ _ =>
      initialValues initial ++ condition.toList ++ increment.toList
  | .returnValue value _ => value.toList
  | .copy source destination _ => source ++ destination
  | .animate first second _ _ => [first, second]
  | .expression (.call _ arguments) _ => arguments
  | .expression value _ => [value]
  | .function .. | .block _ | .empty _ => []

def StartsLoop : Option Statement → Prop
  | none | some (.var ..) | some (.expression ..) => True
  | some _ => False

-- Whether this kind of statement can be written in C, whatever stands in it.
def HasForm : Statement → Prop
  | .function .. | .returnValue .. | .copy .. | .animate .. => False
  | .forLoop initial _ _ _ _ => StartsLoop initial
  | _ => True

/-- The statements that become one call in C. Setters of the pen leave no code behind. -/
def isCallSite : Statement → Bool
  | .cursor .. | .method .. => true
  | .expression (.call callee _) _ =>
      (drawFunction? callee).any fun function => !function.action.needsConstants
  | _ => false

def arguments : Statement → List Expr
  | .cursor _ arguments _ | .method _ _ arguments _ | .expression (.call _ arguments) _ => arguments
  | _ => []

-- What the catalogue asks of a statement that is a call.
def arity? : Statement → Option Nat
  | .cursor .. => some cursorConstructorArity
  | .method _ name _ _ => (cursorMethod? name).map CursorMethod.arity
  | .expression (.call callee _) _ => (drawFunction? callee).map DrawFunction.arity
  | _ => none

end Statement

def Code.Lowerable (ss : List Statement) : Prop :=
  ∀ s ∈ ss, s.HasForm ∧ ∀ e ∈ s.values, e.DrawsNothing

end DrawScript
