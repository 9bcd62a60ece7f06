import DrawScript.Number

set_option autoImplicit false

namespace DrawScript

inductive BinaryOp where
  | assign
  | or
  | and
  | equal
  | notEqual
  | less
  | lessEq
  | greater
  | greaterEq
  | add
  | subtract
  | multiply
  | divide
  | modulo
  deriving DecidableEq, Repr

namespace BinaryOp

def all : List BinaryOp :=
  [.assign, .or, .and, .equal, .notEqual, .less, .lessEq, .greater, .greaterEq, .add, .subtract,
    .multiply, .divide, .modulo]

def symbol : BinaryOp → String
  | .assign => "="
  | .or => "||"
  | .and => "&&"
  | .equal => "=="
  | .notEqual => "!="
  | .less => "<"
  | .lessEq => "<="
  | .greater => ">"
  | .greaterEq => ">="
  | .add => "+"
  | .subtract => "-"
  | .multiply => "*"
  | .divide => "/"
  | .modulo => "%"

def name : BinaryOp → String
  | .assign => "Assign"
  | .or => "Or"
  | .and => "And"
  | .equal => "Equal"
  | .notEqual => "NotEqual"
  | .less => "Less"
  | .lessEq => "LessEq"
  | .greater => "Greater"
  | .greaterEq => "GreaterEq"
  | .add => "Add"
  | .subtract => "Subtract"
  | .multiply => "Multiply"
  | .divide => "Divide"
  | .modulo => "Modulo"

def ofSymbol? (text : String) : Option BinaryOp := all.find? (·.symbol = text)

def isArithmetic : BinaryOp → Bool
  | .add | .subtract | .multiply | .divide | .modulo => true
  | _ => false

@[simp] theorem ofSymbol?_symbol (op : BinaryOp) : ofSymbol? op.symbol = some op := by
  cases op <;> decide

end BinaryOp

inductive UnaryOp where
  | not
  | plus
  | minus
  deriving DecidableEq, Repr

namespace UnaryOp

def all : List UnaryOp := [.not, .plus, .minus]

def symbol : UnaryOp → String
  | .not => "!"
  | .plus => "+"
  | .minus => "-"

def name : UnaryOp → String
  | .not => "Not"
  | .plus => "Plus"
  | .minus => "Minus"

def ofSymbol? (text : String) : Option UnaryOp := all.find? (·.symbol = text)

@[simp] theorem ofSymbol?_symbol (op : UnaryOp) : ofSymbol? op.symbol = some op := by
  cases op <;> decide

end UnaryOp

inductive Expr where
  | call (callee : String) (arguments : List Expr)
  | binary (op : BinaryOp) (left right : Expr)
  | unary (op : UnaryOp) (operand : Expr)
  | identifier (name : String)
  | number (n : Number)
  | string (contents : String)
  | boolean (b : Bool)

namespace Expr

def kindName : Expr → String
  | .call .. => "call_expr"
  | .binary .. => "binary_op"
  | .unary .. => "unary_op"
  | .identifier _ => "identifier"
  | .number _ => "number"
  | .string _ => "string"
  | .boolean _ => "bool_literal"

def constant? : Expr → Option Int
  | .number n => some n.truncate
  | .unary .minus operand => operand.constant?.map fun n => Number.clampInt64 (-n)
  | .unary .plus operand => operand.constant?
  | _ => none

def isConstant (e : Expr) : Bool := e.constant?.isSome

end Expr

end DrawScript
