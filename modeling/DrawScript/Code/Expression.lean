import DrawScript.Catalogue
import DrawScript.Code.Error
import DrawScript.Script.Expression

set_option autoImplicit false

namespace DrawScript.Code

open Catalogue

def dropEnds (text : String) : String := String.ofList (text.toList.drop 1).dropLast

def bare (e : Expr) (text : String) : String :=
  match e with
  | .binary .. => dropEnds text
  | _ => text

def commaSeparated (texts : List String) : String := String.intercalate ", " texts

mutual
def render (line : Nat) : Expr → Except CodeError String
  | .number n => .ok n.text
  | .string contents => .ok ("\"" ++ contents ++ "\"")
  | .boolean b => .ok (if b then "true" else "false")
  | .identifier name => .ok ((surfaceName? name).getD name)
  | .binary op left right => do
      let leftText ← render line left
      let rightText ← render line right
      return "(" ++ leftText ++ " " ++ op.symbol ++ " " ++ rightText ++ ")"
  | .unary op operand => return "(" ++ op.symbol ++ (← render line operand) ++ ")"
  | .call callee arguments =>
      if (drawFunction? callee).isSome then .error ⟨line, .drawingAsValue callee⟩
      else return callee ++ "(" ++ commaSeparated (← renderAll line arguments) ++ ")"

def renderAll (line : Nat) : List Expr → Except CodeError (List String)
  | [] => .ok []
  | e :: es => do
      let text ← render line e
      return bare e text :: (← renderAll line es)
end

def renderBare (line : Nat) (e : Expr) : Except CodeError String :=
  return bare e (← render line e)

def renderOptional (line : Nat) : Option Expr → Except CodeError String
  | none => .ok ""
  | some e => renderBare line e

def typeNamed (name : String) : String :=
  if name = "string" then "char*" else if name = "number" then "float" else name

def typeOf : Expr → String
  | .number n => if n.isInt then "int" else "float"
  | .boolean _ => "bool"
  | .string _ => "char*"
  | .binary .assign _ right => typeOf right
  | .binary op _ _ => if op.isArithmetic then "float" else "bool"
  | .unary .not _ => "bool"
  | .unary _ operand => typeOf operand
  | .identifier _ | .call _ _ => "float"

def declaration (name : String) (type : Option String) (initial : Expr) (line : Nat) :
    Except CodeError String :=
  return type.elim (typeOf initial) typeNamed ++ " " ++ name ++ " = " ++ (← renderBare line initial)

end DrawScript.Code
