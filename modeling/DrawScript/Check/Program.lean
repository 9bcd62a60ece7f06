import DrawScript.Catalogue
import DrawScript.Check.Error
import DrawScript.Script.Statement

set_option autoImplicit false

namespace DrawScript

namespace Check

open Catalogue

def constantArguments (function : String) (arguments : List Expr) (line : Nat) :
    List CheckError :=
  if arguments.all Expr.isConstant then [] else [⟨line, .notConstant function⟩]

def drawCall (callee : String) (arguments : List Expr) (line : Nat) : List CheckError :=
  match drawFunction? callee with
  | none => []
  | some function =>
      (if arguments.length = function.arity then []
        else [⟨line, .functionArity callee function.arity arguments.length⟩]) ++
      if function.action.needsConstants then constantArguments callee arguments line else []

def target (op : BinaryOp) (left : Expr) (line : Nat) : List CheckError :=
  match op, left with
  | .assign, .identifier name => if isSurfaceName name then [⟨line, .readOnly name⟩] else []
  | _, _ => []

mutual
def expression (table : SymbolTable) (line : Nat) : Expr → List CheckError
  | .call callee arguments => drawCall callee arguments line ++ expressions table line arguments
  | .binary op left right =>
      target op left line ++ expression table line left ++ expression table line right
  | .unary _ operand => expression table line operand
  | .identifier name =>
      if isSurfaceName name || (table.lookup name).isSome then [] else [⟨line, .undeclared name⟩]
  | .number _ | .string _ | .boolean _ => []

def expressions (table : SymbolTable) (line : Nat) : List Expr → List CheckError
  | [] => []
  | e :: es => expression table line e ++ expressions table line es
end

def optional (table : SymbolTable) (line : Nat) : Option Expr → List CheckError
  | none => []
  | some e => expression table line e

def method (table : SymbolTable) (cursor name : String) (arguments : List Expr) (line : Nat) :
    List CheckError :=
  match table.lookup cursor with
  | none => [⟨line, .undeclared cursor⟩]
  | some .cursor => match cursorMethod? name with
      | none => [⟨line, .unknownMethod name⟩]
      | some method =>
          (if arguments.length = method.arity then []
            else [⟨line, .methodArity name method.arity arguments.length⟩]) ++
          if method.action.needsConstants then constantArguments name arguments line else []
  | some _ => [⟨line, .notACursor cursor⟩]

def cursorArity (arguments : List Expr) (line : Nat) : List CheckError :=
  if arguments.length = cursorConstructorArity then []
  else [⟨line, .cursorArity cursorConstructorArity arguments.length⟩]

abbrev Checker := StateM SymbolTable (List CheckError)

def declare (kind : SymbolKind) (line : Nat) (name : String) : Checker := do
  if isSurfaceName name then return [⟨line, .alreadyDeclared kind name⟩]
  match (← get).declare name kind with
  | .ok table =>
      set table
      return []
  | .error _ => return [⟨line, .alreadyDeclared kind name⟩]

def declareAll (kind : SymbolKind) (line : Nat) : List String → Checker
  | [] => return []
  | name :: names => return (← declare kind line name) ++ (← declareAll kind line names)

def enclosed (inner : Checker) : Checker := do
  modify SymbolTable.enter
  let errors ← inner
  modify SymbolTable.leave
  return errors

mutual
def statement : Statement → Checker
  | .var name _ initial line => do
      let errors := expression (← get) line initial
      return errors ++ (← declare .number line name)
  | .cursor name arguments line => do
      let errors := expressions (← get) line arguments ++ cursorArity arguments line
      return errors ++ (← declare .cursor line name)
  | .function name parameters body line => do
      let errors ← declare .function line name
      return errors ++ (← enclosed do
        let errors ← declareAll .number line parameters
        return errors ++ (← blockBody body))
  | .ifElse condition thenBlock elseBlock line => do
      let errors := expression (← get) line condition
      let thenErrors ← enclosed (blockBody thenBlock)
      return errors ++ thenErrors ++ (← otherwise elseBlock)
  | .forLoop initial condition increment body line => enclosed do
      let initialErrors ← forInitial initial
      let table ← get
      let errors := optional table line condition ++ optional table line increment
      return initialErrors ++ errors ++ (← enclosed (blockBody body))
  | .whileLoop condition body line => do
      let errors := expression (← get) line condition
      return errors ++ (← enclosed (blockBody body))
  | .doWhile body condition line => do
      let errors ← enclosed (blockBody body)
      return errors ++ expression (← get) line condition
  | .returnValue value line => return optional (← get) line value
  | .copy source destination line => do
      let table ← get
      return expressions table line source ++ expressions table line destination
  | .animate first second body line => do
      let table ← get
      let errors := expression table line first ++ expression table line second
      return errors ++ (← enclosed (blockBody body))
  | .method cursor name arguments line => do
      let table ← get
      return expressions table line arguments ++ method table cursor name arguments line
  | .block body => enclosed (blockBody body)
  | .expression value line => return expression (← get) line value
  | .empty _ => return []

def blockBody : Block Statement → Checker
  | ⟨body, _⟩ => statements body

def otherwise : Option (Block Statement) → Checker
  | none => return []
  | some body => enclosed (blockBody body)

def forInitial : Option Statement → Checker
  | none => return []
  | some initial => statement initial

def statements : List Statement → Checker
  | [] => return []
  | s :: ss => return (← statement s) ++ (← statements ss)
end

end Check

def Program.check (p : Program) : List CheckError := ((Check.statements p).run {}).1

end DrawScript
