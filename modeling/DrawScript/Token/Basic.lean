import DrawScript.Number

set_option autoImplicit false

namespace DrawScript

inductive Token.Kind where
  | number
  | string
  | boolean
  | identifier
  | keyword
  | operator
  | access
  | delimiter
  | assign
  | unknown
  deriving DecidableEq, Repr

inductive Token.Value where
  | number (n : Number)
  | string (contents : String)
  | boolean (b : Bool)
  | lexeme (text : String)
  deriving DecidableEq, Repr

structure Token where
  kind : Token.Kind
  value : Token.Value
  line : Nat
  deriving DecidableEq, Repr

namespace Token

def Kind.name : Kind → String
  | .number => "Number"
  | .string => "String"
  | .boolean => "Boolean"
  | .identifier => "Identifier"
  | .keyword => "Keyword"
  | .operator => "Operator"
  | .access => "AccessOperator"
  | .delimiter => "Delimiter"
  | .assign => "Assign"
  | .unknown => "Unknown"

def Value.text : Value → String
  | .number n => n.text
  | .string contents => "\"" ++ contents ++ "\""
  | .boolean b => if b then "true" else "false"
  | .lexeme text => text

def text (t : Token) : String := t.value.text

def ofLexeme (kind : Kind) (text : String) (line : Nat) : Token :=
  { kind := kind, value := .lexeme text, line := line }

def is (t : Token) (kind : Kind) (text : String) : Bool :=
  t.kind = kind && t.value = .lexeme text

def keywords : List String :=
  ["var", "function", "if", "else", "while", "for", "do", "copy", "animate", "to", "Cursor",
    "return"]

end Token

end DrawScript
