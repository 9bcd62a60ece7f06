import DrawScript.Grammar.Parser
import DrawScript.Script.Expression

set_option autoImplicit false

namespace DrawScript.Grammar

def binaryOf? (ops : List BinaryOp) (token : Token) : Option BinaryOp :=
  match token.kind, token.value with
  | .operator, .lexeme symbol =>
      if (ops.map BinaryOp.symbol).contains symbol then BinaryOp.ofSymbol? symbol else none
  | _, _ => none

def takeBinary (ops : List BinaryOp) : Parser (Option BinaryOp) := do
  match (← get).rest.head?.bind (binaryOf? ops) with
  | some op =>
      advance
      return some op
  | none => return none

def unaryOf? (token : Token) : Option UnaryOp :=
  match token.kind, token.value with
  | .operator, .lexeme symbol => UnaryOp.ofSymbol? symbol
  | _, _ => none

def takeUnary : Parser (Option UnaryOp) := do
  match (← get).rest.head?.bind unaryOf? with
  | some op =>
      advance
      return some op
  | none => return none

def chainFrom (ops : List BinaryOp) (next : Parser Expr) :
    (bound : List Token) → Expr → Parser Expr
  | [], left => return left
  | _ :: bound, left => do
      match ← takeBinary ops with
      | some op => chainFrom ops next bound (.binary op left (← next))
      | none => return left

def chain (ops : List BinaryOp) (next : Parser Expr) : Parser Expr := do
  let left ← next
  chainFrom ops next (← get).rest left

def product (operand : Parser Expr) : Parser Expr :=
  chain [.multiply, .divide, .modulo] operand

def sum (operand : Parser Expr) : Parser Expr :=
  chain [.add, .subtract] (product operand)

def comparison (operand : Parser Expr) : Parser Expr :=
  chain [.less, .lessEq, .greater, .greaterEq] (sum operand)

def equality (operand : Parser Expr) : Parser Expr :=
  chain [.equal, .notEqual] (comparison operand)

def conjunction (operand : Parser Expr) : Parser Expr :=
  chain [.and] (equality operand)

def disjunction (operand : Parser Expr) : Parser Expr :=
  chain [.or] (conjunction operand)

/-- The target is judged only after the value has been read. -/
def assignment (operand : Parser Expr) : (bound : List Token) → Parser Expr
  | [] => disjunction operand
  | _ :: bound => do
      let target ← disjunction operand
      let line ← currentLine
      if ← takes .assign "=" then
        let value ← assignment operand bound
        match target with
        | .identifier name => return .binary .assign (.identifier name) value
        | other => fail line (.invalidTarget other.kindName)
      else return target

def expressionOf (operand : Parser Expr) : Parser Expr := do
  assignment operand (← get).rest

def primary (expression : Parser Expr) : Parser Expr := do
  let s ← get
  match s.rest with
  | [] => fail s.previous (.expectedExpression none)
  | token :: _ =>
      let unexpected := fail token.line (.expectedExpression (some token.text))
      match token.kind, token.value with
      | .number, .number n =>
          advance
          return .number n
      | .string, .string contents =>
          advance
          return .string contents
      | .boolean, .boolean b =>
          advance
          return .boolean b
      | .delimiter, .lexeme text =>
          if text = "(" then
            advance
            let inner ← expression
            let _ ← expect .delimiter ")"
            return inner
          else unexpected
      | .identifier, .lexeme name =>
          advance
          if ← sees .delimiter "(" then return .call name (← parenthesized expression)
          else return .identifier name
      | _, _ => unexpected

/-- One operand with at most `room` operands nested in it, itself included. -/
def operand : (room : Nat) → Parser Expr
  | 0 => do fail (← currentLine) (.tooDeep .operand)
  | room + 1 => do
      match ← takeUnary with
      | some op => return .unary op (← operand room)
      | none => primary (expressionOf (operand room))

def expression (room : Nat) : Parser Expr := expressionOf (operand room)

end DrawScript.Grammar
