import DrawScript.Script.Statement
import DrawScript.Text.Quoted

set_option autoImplicit false

namespace DrawScript

inductive Outline where
  | leaf (text : String)
  | wrapped (name : String) (item : Outline)
  | record (name : String) (fields : List (String × Outline))
  | items (parts : List Outline)

namespace Outline

def margin (depth : Nat) : String := String.ofList (List.replicate (4 * depth) ' ')

mutual
def render (depth : Nat) : Outline → String
  | .leaf text => text
  | .wrapped name item =>
      name ++ "(\n" ++ margin (depth + 1) ++ item.render (depth + 1) ++ ",\n" ++ margin depth ++ ")"
  | .record name fields =>
      name ++ " \x7b\n" ++ renderFields (depth + 1) fields ++ margin depth ++ "\x7d"
  | .items [] => "[]"
  | .items (part :: parts) =>
      "[\n" ++ renderParts (depth + 1) (part :: parts) ++ margin depth ++ "]"

def renderFields (depth : Nat) : List (String × Outline) → String
  | [] => ""
  | (name, value) :: fields =>
      margin depth ++ name ++ ": " ++ value.render depth ++ ",\n" ++ renderFields depth fields

def renderParts (depth : Nat) : List Outline → String
  | [] => ""
  | part :: parts => margin depth ++ part.render depth ++ ",\n" ++ renderParts depth parts
end

def quoted (text : String) : Outline := .leaf (Text.quoted text)

def count (n : Nat) : Outline := .leaf (toString n)

def option : Option Outline → Outline
  | none => .leaf "None"
  | some item => .wrapped "Some" item

end Outline

def Number.outline : Number → Outline
  | .int n => .wrapped "Int" (.leaf (toString n))
  | .float x => .wrapped "Float" (.leaf x.compactText)

mutual
def Expr.outline : Expr → Outline
  | .call callee arguments =>
      .record "Call"
        [("callee", .quoted callee), ("arguments", .items (Expr.outlines arguments))]
  | .binary op left right =>
      .record "BinaryOp"
        [("op", .leaf op.name), ("left", left.outline), ("right", right.outline)]
  | .unary op operand =>
      .record "UnaryOp" [("op", .leaf op.name), ("operand", operand.outline)]
  | .identifier name => .wrapped "Identifier" (.quoted name)
  | .number n => .wrapped "Number" n.outline
  | .string contents => .wrapped "Str" (.quoted contents)
  | .boolean b => .wrapped "Bool" (.leaf (if b then "true" else "false"))

def Expr.outlines : List Expr → List Outline
  | [] => []
  | e :: es => e.outline :: Expr.outlines es
end

def Expr.listOutline (es : List Expr) : Outline := .items (Expr.outlines es)

namespace Statement

mutual
def outline : Statement → Outline
  | .var name type initial line =>
      .record "VarDeclaration"
        [("name", .quoted name), ("var_type", .option (type.map .quoted)),
          ("initializer", initial.outline), ("line", .count line)]
  | .cursor name args line =>
      .record "CursorDeclaration"
        [("name", .quoted name), ("arguments", Expr.listOutline args), ("line", .count line)]
  | .function name parameters body line =>
      .record "FunctionDeclaration"
        [("name", .quoted name), ("params", .items (parameters.map .quoted)),
          ("body", blockOutline body), ("line", .count line)]
  | .ifElse condition thenBlock elseBlock line =>
      .record "If"
        [("condition", condition.outline), ("then_block", blockOutline thenBlock),
          ("else_block", .option (elseOutline elseBlock)), ("line", .count line)]
  | .forLoop initial condition increment body line =>
      .record "For"
        [("init", .option (initialOutline initial)),
          ("condition", .option (condition.map Expr.outline)),
          ("increment", .option (increment.map Expr.outline)),
          ("body", blockOutline body), ("line", .count line)]
  | .whileLoop condition body line =>
      .record "While"
        [("condition", condition.outline), ("body", blockOutline body), ("line", .count line)]
  | .doWhile body condition line =>
      .record "DoWhile"
        [("body", blockOutline body), ("condition", condition.outline), ("line", .count line)]
  | .returnValue value line =>
      .record "Return" [("value", .option (value.map Expr.outline)), ("line", .count line)]
  | .copy source destination line =>
      .record "Copy"
        [("source", Expr.listOutline source), ("destination", Expr.listOutline destination),
          ("line", .count line)]
  | .animate first second body line =>
      .record "Animate"
        [("first", first.outline), ("second", second.outline), ("body", blockOutline body),
          ("line", .count line)]
  | .method owner name args line =>
      .record "CursorMethod"
        [("cursor", .quoted owner), ("method", .quoted name), ("arguments", Expr.listOutline args),
          ("line", .count line)]
  | .block body => .wrapped "Block" (blockOutline body)
  | .expression value line =>
      .record "Expression" [("expression", value.outline), ("line", .count line)]
  | .empty line => .record "Empty" [("line", .count line)]

def blockOutline : Block Statement → Outline
  | ⟨statements, line⟩ =>
      .record "Block" [("statements", .items (outlines statements)), ("line", .count line)]

def elseOutline : Option (Block Statement) → Option Outline
  | none => none
  | some body => some (blockOutline body)

def initialOutline : Option Statement → Option Outline
  | none => none
  | some initial => some initial.outline

def outlines : List Statement → List Outline
  | [] => []
  | s :: ss => s.outline :: outlines ss
end

end Statement

def Program.outline (p : Program) : Outline :=
  .record "Program" [("statements", .items (Statement.outlines p))]

end DrawScript
