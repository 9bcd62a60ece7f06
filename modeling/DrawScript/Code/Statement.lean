import DrawScript.Code.Expression
import DrawScript.Code.Pen
import DrawScript.Script.Statement

set_option autoImplicit false

namespace DrawScript.Code

open Catalogue

-- Blocks and loops are crossed in the order of the text, so the pen is not kept per block.
structure Sheet where
  pen : Pen := {}
  indent : Nat := 1
  output : String := ""
  deriving DecidableEq, Repr

/-- A failure leaves the sheet as it was at that point, in the middle of a block too. -/
abbrev Writer := EStateM CodeError Sheet

def ofExcept {α : Type} : Except CodeError α → Writer α
  | .ok value => pure value
  | .error error => throw error

def emitLine (text : String) : Writer Unit :=
  modify fun sheet =>
    let spaces := String.ofList (List.replicate (4 * sheet.indent) ' ')
    { sheet with output := sheet.output ++ spaces ++ text ++ "\n" }

def call (routine : String) (arguments : List String) : String :=
  routine ++ "(" ++ commaSeparated arguments ++ ");"

-- Every drawing goes to a numbered image of its own, and its place is logged.
def emitDrawing (drawCall x y : String) : Writer Unit := do
  emitLine "sprintf(filename, \"Data/Outputs/drawing_%d.bmp\", drawing_index);"
  emitLine drawCall
  emitLine ("fprintf(file, \"%d %d\\n\", (int)(" ++ x ++ "), (int)(" ++ y ++ "));")
  emitLine "drawing_index++;"

def shapeCall (pen : Pen) (routine : String) (thickness : Bool) (arguments : List String) :
    String :=
  call routine <|
    "renderer" :: arguments ++ (if thickness then [toString pen.thickness] else []) ++
      pen.color.channels.map toString ++ ["filename"]

def drawStatement (function : DrawFunction) (arguments : List Expr) (line : Nat) :
    Writer Unit := do
  match function.action with
  | .setColor =>
      let color ← ofExcept (colorOf function.name line arguments)
      modify fun sheet => { sheet with pen.color := color }
  | .setThickness => match arguments with
      | [] => return
      | first :: _ =>
          let thickness ← ofExcept (constant function.name line first)
          modify fun sheet => { sheet with pen.thickness := thickness }
  | .shape routine thickness =>
      let texts ← ofExcept (renderAll line arguments)
      let drawCall := shapeCall (← get).pen routine thickness texts
      emitDrawing drawCall (texts.getD 0 "0") (texts.getD 1 "0")

def expressionStatement (value : Expr) (line : Nat) : Writer Unit := do
  let plain := do emitLine ((← ofExcept (renderBare line value)) ++ ";")
  match value with
  | .call callee arguments => match drawFunction? callee with
      | some function => drawStatement function arguments line
      | none => plain
  | _ => plain

def methodStatement (cursor name : String) (arguments : List Expr) (line : Nat) :
    Writer Unit := do
  match cursorMethod? name with
  | none => throw ⟨line, .unsupported "unknown cursor method"⟩
  | some method => match method.action with
      | .setColor =>
          let color ← ofExcept (colorOf name line arguments)
          emitLine (call method.routine (cursor :: color.channels.map toString))
      | .move | .rotate | .setThickness =>
          let texts ← ofExcept (renderAll line arguments)
          emitLine (call method.routine (cursor :: texts))
      | .draw =>
          let texts ← ofExcept (renderAll line arguments)
          let drawCall := call method.routine (cursor :: "renderer" :: texts ++ ["filename"])
          emitDrawing drawCall (cursor ++ "->x") (cursor ++ "->y")

def unsupported (s : Statement) : CodeError := ⟨s.line, .unsupported s.kindName⟩

-- Only a declaration or an expression fits into the head of a C loop.
def forInitial : Option Statement → Except CodeError String
  | none => .ok ""
  | some (.var name type initial line) => declaration name type initial line
  | some (.expression value line) => renderBare line value
  | some other => .error (unsupported other)

def forHead (initial : Option Statement) (condition increment : Option Expr) (line : Nat) :
    Except CodeError String := do
  let initialText ← forInitial initial
  let conditionText ← renderOptional line condition
  let incrementText ← renderOptional line increment
  return "for (" ++ initialText ++ "; " ++ conditionText ++ "; " ++ incrementText ++ ")"

mutual
def statement : Statement → Writer Unit
  | .var name type initial line => do
      emitLine ((← ofExcept (declaration name type initial line)) ++ ";")
  | .cursor name arguments line => do
      let texts ← ofExcept (renderAll line arguments)
      emitLine ("Cursor* " ++ name ++ " = " ++ call cursorConstructor texts)
  | .ifElse condition thenBlock elseBlock line => do
      emitLine ("if (" ++ (← ofExcept (renderBare line condition)) ++ ")")
      block thenBlock
      otherwise elseBlock
  | .forLoop initial condition increment body line => do
      emitLine (← ofExcept (forHead initial condition increment line))
      block body
  | .whileLoop condition body line => do
      emitLine ("while (" ++ (← ofExcept (renderBare line condition)) ++ ")")
      block body
  | .doWhile body condition line => do
      emitLine "do"
      block body
      emitLine ("while (" ++ (← ofExcept (renderBare line condition)) ++ ");")
  | .method cursor name arguments line => methodStatement cursor name arguments line
  | .block body => block body
  | .expression value line => expressionStatement value line
  | .empty _ => return
  | .function name parameters body line => throw (unsupported (.function name parameters body line))
  | .returnValue value line => throw (unsupported (.returnValue value line))
  | .copy source destination line => throw (unsupported (.copy source destination line))
  | .animate first second body line => throw (unsupported (.animate first second body line))

def block : Block Statement → Writer Unit
  | ⟨body, _⟩ => do
      emitLine "\x7b"
      modify fun sheet => { sheet with indent := sheet.indent + 1 }
      statements body
      modify fun sheet => { sheet with indent := sheet.indent - 1 }
      emitLine "\x7d"

def otherwise : Option (Block Statement) → Writer Unit
  | none => return
  | some body => do
      emitLine "else"
      block body

def statements : List Statement → Writer Unit
  | [] => return
  | s :: ss => do
      statement s
      statements ss
end

end DrawScript.Code
