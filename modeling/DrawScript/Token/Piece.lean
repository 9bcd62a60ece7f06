import DrawScript.Text.DecimalDigit
import DrawScript.Text.WordCharacter

set_option autoImplicit false

namespace DrawScript

inductive Piece.Shape where
  | newline
  | blank
  | blockComment
  | lineComment
  | number
  | string
  | boolean
  | word
  | access
  | operator
  | delimiter
  | assign
  | stray
  deriving DecidableEq, Repr

structure Piece where
  shape : Piece.Shape
  text : List Char
  deriving DecidableEq, Repr

namespace Piece

open Text

def isBlank (c : Char) : Bool := c = ' ' || c = '\t' || c = '\r'

def startsWord (c : Char) : Bool := c.isAlpha || c = '_'

def isDelimiter (c : Char) : Bool :=
  ['(', ')', '\x7b', '\x7d', ';', ',', ':'].contains c

def commentEnd? : List Char → Option Nat
  | [] => none
  | '*' :: '/' :: _ => some 2
  | _ :: rest => (commentEnd? rest).map (· + 1)

def digitCount (cs : List Char) : Nat := (cs.takeWhile isDecimalDigit).length

def fractionLength : List Char → Nat
  | '.' :: rest => match digitCount rest with
      | 0 => 0
      | count => count + 1
  | _ => 0

def stringLength : List Char → Nat
  | '"' :: rest =>
      let contents := (rest.takeWhile fun c => c ≠ '"' && c ≠ '\n').length
      match rest.drop contents with
      | '"' :: _ => contents + 2
      | _ => 0
  | _ => 0

/-- A literal word is only itself when no word character follows. -/
def literalLength (literal cs : List Char) : Nat :=
  if literal.isPrefixOf cs && !(cs.drop literal.length).head?.any isWordCharacter then
    literal.length
  else 0

def operatorLength : List Char → Nat
  | '=' :: '=' :: _ | '!' :: '=' :: _ | '<' :: '=' :: _ | '>' :: '=' :: _
  | '&' :: '&' :: _ | '|' :: '|' :: _ => 2
  | c :: _ => if ['-', '+', '*', '/', '%', '<', '>', '!'].contains c then 1 else 0
  | [] => 0

def Shape.extent : Shape → List Char → Nat
  | .newline, '\n' :: _ => 1
  | .blank, cs => (cs.takeWhile isBlank).length
  | .blockComment, '/' :: '*' :: rest => (commentEnd? rest).elim 0 (· + 2)
  | .lineComment, '/' :: '/' :: rest => (rest.takeWhile (· ≠ '\n')).length + 2
  | .number, cs => digitCount cs + fractionLength (cs.drop (digitCount cs))
  | .string, cs => stringLength cs
  | .boolean, cs => literalLength "true".toList cs + literalLength "false".toList cs
  | .word, c :: rest => if startsWord c then (rest.takeWhile isWordCharacter).length + 1 else 0
  | .access, '.' :: _ => 1
  | .operator, cs => operatorLength cs
  | .delimiter, c :: _ => if isDelimiter c then 1 else 0
  | .assign, '=' :: _ => 1
  | .stray, c :: _ => if c = '\n' then 0 else 1
  | _, _ => 0

def Shape.priority : List Shape :=
  [.newline, .blank, .blockComment, .lineComment, .number, .string, .boolean, .word, .access,
    .operator, .delimiter, .assign, .stray]

def Shape.piece? (shape : Shape) (cs : List Char) : Option Piece :=
  match shape.extent cs with
  | 0 => none
  | length => some { shape := shape, text := cs.take length }

def first? (cs : List Char) : Option Piece := Shape.priority.findSome? (·.piece? cs)

/-- At most `bound.length` pieces, and the text left after them. -/
def cut : (bound : List Char) → List Char → List Piece × List Char
  | [], cs => ([], cs)
  | _ :: bound, cs => match first? cs with
      | none => ([], cs)
      | some piece =>
          let (pieces, rest) := cut bound (cs.drop piece.text.length)
          (piece :: pieces, rest)

def ofCharacter (c : Char) : Piece :=
  { shape := if c = '\n' then .newline else .stray, text := [c] }

def divide (script : List Char) : List Piece :=
  let (pieces, rest) := cut script script
  pieces ++ rest.map ofCharacter

def newlines (p : Piece) : Nat := p.text.count '\n'

end Piece

end DrawScript
