import DrawScript.Token.Basic
import DrawScript.Token.Piece

set_option autoImplicit false

namespace DrawScript

structure LexicalError where
  line : Nat
  lexeme : String
  deriving DecidableEq, Repr

def LexicalError.message (e : LexicalError) : String :=
  "Lexer error at line " ++ toString e.line ++ ": unexpected character '" ++ e.lexeme ++ "'"

/-- What a script reads as. Every unknown token is also an error. -/
structure Reading where
  tokens : List Token
  errors : List LexicalError
  deriving DecidableEq, Repr

namespace Piece

def wordKind (word : String) : Token.Kind :=
  if Token.keywords.contains word then .keyword else .identifier

def token? (p : Piece) (line : Nat) : Option Token :=
  let text := String.ofList p.text
  match p.shape with
  | .newline | .blank | .blockComment | .lineComment => none
  | .number => match Number.ofText? p.text with
      | some n => some { kind := .number, value := .number n, line := line }
      | none => some (.ofLexeme .unknown text line)
  | .string =>
      let contents := String.ofList (p.text.drop 1).dropLast
      some { kind := .string, value := .string contents, line := line }
  | .boolean => some { kind := .boolean, value := .boolean (text = "true"), line := line }
  | .word => some (.ofLexeme (wordKind text) text line)
  | .access => some (.ofLexeme .access text line)
  | .operator => some (.ofLexeme .operator text line)
  | .delimiter => some (.ofLexeme .delimiter text line)
  | .assign => some (.ofLexeme .assign text line)
  | .stray => some (.ofLexeme .unknown text line)

end Piece

namespace Reading

def add (t : Token) (r : Reading) : Reading :=
  { tokens := t :: r.tokens
    errors := if t.kind = .unknown then ⟨t.line, t.text⟩ :: r.errors else r.errors }

def ofPieces (line : Nat) : List Piece → Reading
  | [] => ⟨[], []⟩
  | piece :: rest =>
      let later := ofPieces (line + piece.newlines) rest
      match piece.token? line with
      | some token => later.add token
      | none => later

end Reading

def tokenize (script : String) : Reading :=
  Reading.ofPieces 1 (Piece.divide script.toList)

end DrawScript
