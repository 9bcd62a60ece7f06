import DrawScript.Grammar.Expression
import DrawScript.Script.Statement

set_option autoImplicit false

namespace DrawScript.Grammar

structure Owner where
  construct : Construct
  line : Nat
  deriving DecidableEq, Repr

abbrev BlockParser := Owner → Parser (Block Statement)

def literalType? : Expr → Option String
  | .number n => some (if n.isInt then "int" else "float")
  | .boolean _ => some "bool"
  | _ => none

def annotation : Parser (Option String) := do
  if ← takes .delimiter ":" then return some (← expectName .typeName) else return none

def expectInitial (name : String) : Parser Unit := do
  unless ← takes .assign "=" do
    fail (← currentLine) (.missingInitial name)

def varDeclaration (expression : Parser Expr) : Parser (String × Statement) := do
  let line ← expect .keyword "var"
  let name ← expectName .var
  let type ← annotation
  expectInitial name
  let initial ← expression
  return (name, .var name (type <|> literalType? initial) initial line)

def varStatement (expression : Parser Expr) : Parser Statement := do
  let (name, declaration) ← varDeclaration expression
  expectSemicolon (.var name)
  return declaration

def cursorStatement (expression : Parser Expr) : Parser Statement := do
  let line ← expect .keyword "Cursor"
  let name ← expectName .cursorVar
  let _ ← expect .assign "="
  let _ ← expect .keyword "Cursor"
  let arguments ← parenthesized expression
  expectSemicolon (.cursorVar name)
  return .cursor name arguments line

def condition (expression : Parser Expr) : Parser Expr := do
  let _ ← expect .delimiter "("
  let value ← expression
  let _ ← expect .delimiter ")"
  return value

/-- A chain of `else if` nests to the right, each link in a block of its own. -/
def ifStatement (expression : Parser Expr) (block : BlockParser) :
    (bound : List Token) → Parser Statement
  | [] => do fail (← currentLine) (.expectedText "if" none)
  | _ :: bound => do
      let line ← expect .keyword "if"
      let test ← condition expression
      let thenBlock ← block ⟨.ifElse, line⟩
      let elseLine ← currentLine
      if ← takes .keyword "else" then
        if ← sees .keyword "if" then
          let nested ← ifStatement expression block bound
          return .ifElse test thenBlock (some ⟨[nested], elseLine⟩) line
        else return .ifElse test thenBlock (some (← block ⟨.ifElse, line⟩)) line
      else return .ifElse test thenBlock none line

def forInitial (expression : Parser Expr) : Parser (Option Statement) := do
  if ← sees .delimiter ";" then return none
  else if ← sees .keyword "var" then return some (← varDeclaration expression).2
  else
    let line ← currentLine
    return some (.expression (← expression) line)

def optional (expression : Parser Expr) (stop : String) : Parser (Option Expr) := do
  if ← sees .delimiter stop then return none else return some (← expression)

def forStatement (expression : Parser Expr) (block : BlockParser) : Parser Statement := do
  let line ← expect .keyword "for"
  let _ ← expect .delimiter "("
  let initial ← forInitial expression
  let _ ← expect .delimiter ";"
  let test ← optional expression ";"
  let _ ← expect .delimiter ";"
  let increment ← optional expression ")"
  let _ ← expect .delimiter ")"
  let body ← block ⟨.forLoop, line⟩
  return .forLoop initial test increment body line

def whileStatement (expression : Parser Expr) (block : BlockParser) : Parser Statement := do
  let line ← expect .keyword "while"
  let test ← condition expression
  let body ← block ⟨.whileLoop, line⟩
  return .whileLoop test body line

def doStatement (expression : Parser Expr) (block : BlockParser) : Parser Statement := do
  let line ← expect .keyword "do"
  let body ← block ⟨.doWhile, line⟩
  let _ ← expect .keyword "while"
  let test ← condition expression
  expectSemicolon .doWhile
  return .doWhile body test line

def functionStatement (block : BlockParser) : Parser Statement := do
  let line ← expect .keyword "function"
  let name ← expectName .function
  let parameters ← parenthesized (expectName .parameter)
  let body ← block ⟨.function, line⟩
  return .function name parameters body line

def returnStatement (expression : Parser Expr) : Parser Statement := do
  let line ← expect .keyword "return"
  let value ← optional expression ";"
  expectSemicolon .returnValue
  return .returnValue value line

def copyArguments (expression : Parser Expr) (line : Nat) (side : CopyEnd) :
    Parser (List Expr) := do
  let arguments ← parenthesized expression
  if arguments.length = side.arity then return arguments
  else fail line (.copyArity side arguments.length)

def copyStatement (expression : Parser Expr) : Parser Statement := do
  let line ← expect .keyword "copy"
  let source ← copyArguments expression line .source
  let _ ← expect .keyword "to"
  let destination ← copyArguments expression line .destination
  expectSemicolon .copy
  return .copy source destination line

def animateStatement (expression : Parser Expr) (block : BlockParser) : Parser Statement := do
  let line ← expect .keyword "animate"
  let _ ← expect .delimiter "("
  let first ← expression
  let _ ← expect .delimiter ","
  let second ← expression
  let _ ← expect .delimiter ")"
  let body ← block ⟨.animate, line⟩
  return .animate first second body line

def startsMethod : List Token → Bool
  | cursor :: point :: name :: paren :: _ =>
      cursor.kind = .identifier && point.kind = .access && name.kind = .identifier &&
        paren.is .delimiter "("
  | _ => false

def methodStatement (expression : Parser Expr) : Parser Statement := do
  let line ← currentLine
  let cursor ← expectName .cursor
  let _ ← expect .access "."
  let name ← expectName .method
  let arguments ← parenthesized expression
  expectSemicolon (.method cursor name)
  return .method cursor name arguments line

def expressionStatement (expression : Parser Expr) : Parser Statement := do
  let line ← currentLine
  let value ← expression
  expectSemicolon .expression
  return .expression value line

def keywordStatement (expression : Parser Expr) (block : BlockParser) (token : Token) :
    Parser Statement := do
  match token.text with
  | "var" => varStatement expression
  | "Cursor" => cursorStatement expression
  | "if" => ifStatement expression block (← get).rest
  | "for" => forStatement expression block
  | "while" => whileStatement expression block
  | "do" => doStatement expression block
  | "function" => functionStatement block
  | "return" => returnStatement expression
  | "copy" => copyStatement expression
  | "animate" => animateStatement expression block
  | text => fail token.line (.unexpectedKeyword text)

def statementOf (expression : Parser Expr) (block : BlockParser) : Parser Statement := do
  let s ← get
  match s.rest with
  | [] => fail s.previous .expectedStatement
  | token :: _ =>
      if token.kind = .keyword then keywordStatement expression block token
      else if ← takes .delimiter ";" then return .empty token.line
      else if token.is .delimiter "\x7b" then return .block (← block ⟨.block, token.line⟩)
      else if startsMethod s.rest then methodStatement expression
      else expressionStatement expression

def unclosed {α : Type} (owner : Owner) : Parser α :=
  halt owner.line (.unclosed owner.construct owner.line)

/-- Statements through a closing brace, leaving out those that are rejected. -/
def statementsThroughBrace (owner : Owner) (statement : Parser Statement) :
    (bound : List Token) → Parser (List Statement)
  | [] => unclosed owner
  | _ :: bound => do
      if ← takes .delimiter "\x7d" then return []
      else if ← atEnd then unclosed owner
      else if ← tick then unclosed owner
      else match ← attempt statement with
        | some value => return value :: (← statementsThroughBrace owner statement bound)
        | none => statementsThroughBrace owner statement bound

/-- A brace block in which at most `room` levels nest, itself included. -/
def block : (room : Nat) → BlockParser
  | 0, _ => do fail (← currentLine) (.tooDeep .block)
  | room + 1, owner => do
      let line ← expect .delimiter "\x7b"
      let statement := statementOf (expression room) (block room)
      let statements ← statementsThroughBrace owner statement (← get).rest
      return ⟨statements, line⟩

def statement (room : Nat) : Parser Statement :=
  statementOf (expression room) (block room)

end DrawScript.Grammar
