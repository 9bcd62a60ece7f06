set_option autoImplicit false

namespace DrawScript.Grammar

inductive Construct where
  | block
  | ifElse
  | forLoop
  | whileLoop
  | doWhile
  | function
  | animate
  deriving DecidableEq, Repr

def Construct.describe : Construct → String
  | .block => "block"
  | .ifElse => "if statement"
  | .forLoop => "for loop"
  | .whileLoop => "while loop"
  | .doWhile => "do-while loop"
  | .function => "function"
  | .animate => "animate block"

inductive NamePlace where
  | var
  | typeName
  | cursorVar
  | function
  | parameter
  | cursor
  | method
  deriving DecidableEq, Repr

def NamePlace.describe : NamePlace → String
  | .var => "after 'var'"
  | .typeName => "as type annotation"
  | .cursorVar => "after 'Cursor'"
  | .function => "after 'function'"
  | .parameter => "as parameter name"
  | .cursor => "as cursor name"
  | .method => "as method name"

inductive Closing where
  | var (name : String)
  | cursorVar (name : String)
  | doWhile
  | returnValue
  | copy
  | method (cursor name : String)
  | expression
  deriving DecidableEq, Repr

def Closing.describe : Closing → String
  | .var name => "declaration of '" ++ name ++ "'"
  | .cursorVar name => "declaration of cursor '" ++ name ++ "'"
  | .doWhile => "do-while condition"
  | .returnValue => "return statement"
  | .copy => "copy statement"
  | .method cursor name => "call to '" ++ cursor ++ "." ++ name ++ "'"
  | .expression => "expression"

inductive Level where
  | block
  | operand
  deriving DecidableEq, Repr

def Level.describe : Level → String
  | .block => "Block"
  | .operand => "Expression"

inductive CopyEnd where
  | source
  | destination
  deriving DecidableEq, Repr

def CopyEnd.describe : CopyEnd → String
  | .source => "source"
  | .destination => "destination"

def CopyEnd.arity : CopyEnd → Nat
  | .source => 4
  | .destination => 2

inductive Cause where
  | expectedStatement
  | expectedText (text : String) (found : Option String)
  | expectedName (place : NamePlace) (found : Option String)
  | expectedExpression (found : Option String)
  | unexpectedKeyword (text : String)
  | missingInitial (name : String)
  | missingSemicolon (closing : Closing)
  | invalidTarget (kindName : String)
  | copyArity (side : CopyEnd) (found : Nat)
  | tooDeep (level : Level)
  | unclosed (construct : Construct) (line : Nat)
  | stepLimit
  deriving DecidableEq, Repr

def foundOrEnd : Option String → String
  | some text => ", found '" ++ text ++ "'"
  | none => ", but reached end of input"

def Cause.message : Cause → String
  | .expectedStatement => "Expected a statement, but reached end of input"
  | .expectedText text found => "Expected '" ++ text ++ "'" ++ foundOrEnd found
  | .expectedName place found => "Expected identifier " ++ place.describe ++ foundOrEnd found
  | .expectedExpression found => "Expected an expression" ++ foundOrEnd found
  | .unexpectedKeyword text => "Unexpected keyword '" ++ text ++ "'"
  | .missingInitial name => "Expected '=' in declaration of '" ++ name ++ "'"
  | .missingSemicolon closing => "Missing ';' after " ++ closing.describe
  | .invalidTarget kindName => "Invalid assignment target: " ++ kindName
  | .copyArity side found =>
      "copy expects " ++ toString side.arity ++ " " ++ side.describe ++ " arguments, found "
        ++ toString found
  | .tooDeep level => level.describe ++ " nested too deeply"
  | .unclosed construct line =>
      construct.describe ++ " starting at line " ++ toString line ++ " is not properly closed"
  | .stepLimit => "Parser iteration limit reached"

end Grammar

structure GrammarError where
  line : Nat
  cause : Grammar.Cause
  deriving DecidableEq, Repr

def GrammarError.message (e : GrammarError) : String :=
  "Syntax error at line " ++ toString e.line ++ ": " ++ e.cause.message

end DrawScript
