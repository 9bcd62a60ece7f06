import DrawScript.Script.Statement

set_option autoImplicit false

namespace DrawScript

mutual
def Expr.inner : Expr → List Expr
  | .call _ arguments => Expr.partsAll arguments
  | .binary _ left right => left :: left.inner ++ right :: right.inner
  | .unary _ operand => operand :: operand.inner
  | .identifier _ | .number _ | .string _ | .boolean _ => []

def Expr.partsAll : List Expr → List Expr
  | [] => []
  | e :: es => e :: e.inner ++ Expr.partsAll es
end

def Expr.parts (e : Expr) : List Expr := e :: e.inner

theorem Expr.mem_partsAll {x : Expr} {es : List Expr} :
    x ∈ partsAll es ↔ ∃ e ∈ es, x ∈ e.parts := by
  induction es with
  | nil => simp [partsAll]
  | cons e es ih => simp [partsAll, parts, ih, or_assoc]

theorem Expr.partsAll_eq_flatMap (es : List Expr) : partsAll es = es.flatMap parts := by
  induction es with
  | nil => rfl
  | cons e es ih => simp [partsAll, parts, ih]

def Expr.name? : Expr → Option String
  | .identifier name => some name
  | _ => none

def Expr.names (e : Expr) : List String := e.parts.filterMap name?

namespace Expr

@[simp] theorem names_call (callee : String) (arguments : List Expr) :
    (call callee arguments).names = arguments.flatMap names := by
  rw [names, parts, inner, partsAll_eq_flatMap, List.filterMap_cons_none rfl,
    List.filterMap_flatMap]
  rfl

@[simp] theorem names_binary (op : BinaryOp) (left right : Expr) :
    (binary op left right).names = left.names ++ right.names := by
  have split : (binary op left right).inner = left.parts ++ right.parts := rfl
  rw [names, parts, List.filterMap_cons_none rfl, split, List.filterMap_append]
  rfl

@[simp] theorem names_unary (op : UnaryOp) (operand : Expr) :
    (unary op operand).names = operand.names := rfl

@[simp] theorem names_identifier (name : String) : (identifier name).names = [name] := rfl

end Expr

namespace Statement

mutual
def inner : Statement → List Statement
  | .function _ _ body _ | .whileLoop _ body _ | .doWhile body _ _ | .animate _ _ body _
  | .block body => walkBlock body
  | .ifElse _ thenBlock elseBlock _ => walkBlock thenBlock ++ walkOtherwise elseBlock
  | .forLoop initial _ _ body _ => walkInitial initial ++ walkBlock body
  | .var .. | .cursor .. | .returnValue .. | .copy .. | .method .. | .expression .. | .empty _ => []

def walkBlock : Block Statement → List Statement
  | ⟨body, _⟩ => walkAll body

def walkOtherwise : Option (Block Statement) → List Statement
  | none => []
  | some body => walkBlock body

def walkInitial : Option Statement → List Statement
  | none => []
  | some initial => initial :: initial.inner

def walkAll : List Statement → List Statement
  | [] => []
  | s :: ss => s :: s.inner ++ walkAll ss
end

def walk (s : Statement) : List Statement := s :: s.inner

theorem mem_walkAll {x : Statement} {ss : List Statement} :
    x ∈ walkAll ss ↔ ∃ s ∈ ss, x ∈ s.walk := by
  induction ss with
  | nil => simp [walkAll]
  | cons s ss ih => simp [walkAll, walk, ih, or_assoc]

theorem forall_walk_simple {property : Statement → Prop} {s : Statement} (simple : s.inner = [])
    (holds : property s) : ∀ x ∈ s.walk, property x := by
  rw [walk, simple, List.forall_mem_singleton]
  exact holds

end Statement

def Program.walk (p : Program) : List Statement := Statement.walkAll p

namespace Statement

mutual
def lines : Statement → List Nat
  | .function _ _ body line | .whileLoop _ body line | .doWhile body _ line
  | .animate _ _ body line => line :: linesBlock body
  | .ifElse _ thenBlock elseBlock line => line :: linesBlock thenBlock ++ linesOtherwise elseBlock
  | .forLoop initial _ _ body line => line :: linesInitial initial ++ linesBlock body
  -- A block has one line, also where it stands as a statement.
  | .block body => linesBlock body
  | .var _ _ _ line | .cursor _ _ line | .returnValue _ line | .copy _ _ line
  | .method _ _ _ line | .expression _ line | .empty line => [line]

def linesBlock : Block Statement → List Nat
  | ⟨body, line⟩ => line :: linesAll body

def linesOtherwise : Option (Block Statement) → List Nat
  | none => []
  | some body => linesBlock body

def linesInitial : Option Statement → List Nat
  | none => []
  | some initial => initial.lines

def linesAll : List Statement → List Nat
  | [] => []
  | s :: ss => s.lines ++ linesAll ss
end

end Statement

def Program.lines (p : Program) : List Nat := Statement.linesAll p

end DrawScript
