import DrawScript.Script.Expression

set_option autoImplicit false

namespace DrawScript

structure Block (σ : Type) where
  statements : List σ
  line : Nat

inductive Statement where
  | var (name : String) (type : Option String) (initial : Expr) (line : Nat)
  | cursor (name : String) (arguments : List Expr) (line : Nat)
  | function (name : String) (parameters : List String) (body : Block Statement) (line : Nat)
  | ifElse (condition : Expr) (thenBlock : Block Statement)
      (elseBlock : Option (Block Statement)) (line : Nat)
  | forLoop (initial : Option Statement) (condition increment : Option Expr)
      (body : Block Statement) (line : Nat)
  | whileLoop (condition : Expr) (body : Block Statement) (line : Nat)
  | doWhile (body : Block Statement) (condition : Expr) (line : Nat)
  | returnValue (value : Option Expr) (line : Nat)
  | copy (source destination : List Expr) (line : Nat)
  | animate (first second : Expr) (body : Block Statement) (line : Nat)
  | method (cursor name : String) (arguments : List Expr) (line : Nat)
  | block (body : Block Statement)
  | expression (value : Expr) (line : Nat)
  | empty (line : Nat)

abbrev Program := List Statement

namespace Statement

def line : Statement → Nat
  | .var _ _ _ line | .cursor _ _ line | .function _ _ _ line | .ifElse _ _ _ line
  | .forLoop _ _ _ _ line | .whileLoop _ _ line | .doWhile _ _ line | .returnValue _ line
  | .copy _ _ line | .animate _ _ _ line | .method _ _ _ line | .expression _ line
  | .empty line => line
  | .block body => body.line

def kindName : Statement → String
  | .var .. => "var_declaration"
  | .cursor .. => "cursor_declaration"
  | .function .. => "function_declaration"
  | .ifElse .. => "if_statement"
  | .forLoop .. => "for_statement"
  | .whileLoop .. => "while_statement"
  | .doWhile .. => "do_while_statement"
  | .returnValue .. => "return_statement"
  | .copy .. => "copy_statement"
  | .animate .. => "animate_statement"
  | .method .. => "cursor_method"
  | .block .. => "block"
  | .expression .. => "expression_statement"
  | .empty _ => "empty_statement"

def isVar : Statement → Bool
  | .var .. => true
  | _ => false

end Statement

end DrawScript
