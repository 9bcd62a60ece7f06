import DrawScript.Catalogue
import DrawScript.Check.Error
import DrawScript.Script.Statement
import Mathlib.Data.Finmap

set_option autoImplicit false

namespace DrawScript.Lexical

open Catalogue

abbrev Names := Finmap fun _ : String => SymbolKind

structure Environment where
  innermost : Names
  outer : List Names

namespace Environment

def outermost : Environment := ⟨∅, []⟩

def opened (env : Environment) : Environment := ⟨∅, env.innermost :: env.outer⟩

def lookup (env : Environment) (name : String) : Option SymbolKind :=
  (env.innermost :: env.outer).findSome? (Finmap.lookup name)

def Taken (env : Environment) (name : String) : Prop :=
  isSurfaceName name ∨ name ∈ env.innermost

instance (env : Environment) (name : String) : Decidable (env.Taken name) :=
  inferInstanceAs (Decidable (_ ∨ _))

def declare (env : Environment) (kind : SymbolKind) (name : String) : Environment :=
  if env.Taken name then env else { env with innermost := env.innermost.insert name kind }

def declareAll (env : Environment) (kind : SymbolKind) (names : List String) : Environment :=
  names.foldl (·.declare kind) env

end Environment

def after (env : Environment) : Statement → Environment
  | .var name _ _ _ => env.declare .number name
  | .cursor name _ _ => env.declare .cursor name
  | .function name _ _ _ => env.declare .function name
  | _ => env

def header (env : Environment) : Option Statement → Environment
  | none => env.opened
  | some initial => after env.opened initial

def require (rule : Prop) [Decidable rule] (line : Nat) (cause : Check.Cause) : List CheckError :=
  if rule then [] else [⟨line, cause⟩]

def declaration (env : Environment) (kind : SymbolKind) (line : Nat) (name : String) :
    List CheckError :=
  require (¬ env.Taken name) line (.alreadyDeclared kind name)

def declarations (env : Environment) (kind : SymbolKind) (line : Nat) :
    List String → List CheckError
  | [] => []
  | name :: names =>
      declaration env kind line name ++ declarations (env.declare kind name) kind line names

def constants (needed : Bool) (name : String) (arguments : List Expr) (line : Nat) :
    List CheckError :=
  require (needed → ∀ e ∈ arguments, e.isConstant) line (.notConstant name)

def call (name : String) (arguments : List Expr) (line : Nat) : List CheckError :=
  match drawFunction? name with
  | none => []
  | some function =>
      require (arguments.length = function.arity) line
        (.functionArity name function.arity arguments.length) ++
      constants function.action.needsConstants name arguments line

def method (env : Environment) (cursor name : String) (arguments : List Expr) (line : Nat) :
    List CheckError :=
  match env.lookup cursor, cursorMethod? name with
  | none, _ => [⟨line, .undeclared cursor⟩]
  | some .number, _ | some .function, _ => [⟨line, .notACursor cursor⟩]
  | some .cursor, none => [⟨line, .unknownMethod name⟩]
  | some .cursor, some method =>
      require (arguments.length = method.arity) line
        (.methodArity name method.arity arguments.length) ++
      constants method.action.needsConstants name arguments line

def assignment : BinaryOp → Expr → Nat → List CheckError
  | .assign, .identifier name, line => require (¬ isSurfaceName name) line (.readOnly name)
  | _, _, _ => []

mutual
def expression (env : Environment) (line : Nat) : Expr → List CheckError
  | .call name arguments => call name arguments line ++ expressions env line arguments
  | .binary op left right =>
      assignment op left line ++ (expression env line left ++ expression env line right)
  | .unary _ operand => expression env line operand
  | .identifier name =>
      require (isSurfaceName name ∨ env.lookup name ≠ none) line (.undeclared name)
  | .number _ | .string _ | .boolean _ => []

def expressions (env : Environment) (line : Nat) : List Expr → List CheckError
  | [] => []
  | e :: es => expression env line e ++ expressions env line es
end

def optional (env : Environment) (line : Nat) (e : Option Expr) : List CheckError :=
  expressions env line e.toList

mutual
def statement (env : Environment) : Statement → List CheckError
  | .var name _ initial line =>
      expression env line initial ++ declaration env .number line name
  | .cursor name arguments line =>
      expressions env line arguments ++
      require (arguments.length = cursorConstructorArity) line
        (.cursorArity cursorConstructorArity arguments.length) ++
      declaration env .cursor line name
  | .function name parameters body line =>
      -- The name is declared outside the scope that the parameters share with the body.
      let inside := (env.declare .function name).opened
      declaration env .function line name ++
      declarations inside .number line parameters ++
      block (inside.declareAll .number parameters) body
  | .ifElse condition thenBlock elseBlock line =>
      expression env line condition ++ block env.opened thenBlock ++ otherwise env elseBlock
  | .forLoop initial condition increment body line =>
      initially env.opened initial ++
      optional (header env initial) line condition ++
      optional (header env initial) line increment ++
      block (header env initial).opened body
  | .whileLoop condition body line => expression env line condition ++ block env.opened body
  | .doWhile body condition line => block env.opened body ++ expression env line condition
  | .returnValue value line => optional env line value
  | .copy source destination line =>
      expressions env line source ++ expressions env line destination
  | .animate first second body line =>
      expression env line first ++ expression env line second ++ block env.opened body
  | .method cursor name arguments line =>
      expressions env line arguments ++ method env cursor name arguments line
  | .block body => block env.opened body
  | .expression value line => expression env line value
  | .empty _ => []

def block (env : Environment) : Block Statement → List CheckError
  | ⟨body, _⟩ => statements env body

def otherwise (env : Environment) : Option (Block Statement) → List CheckError
  | none => []
  | some body => block env.opened body

def initially (env : Environment) : Option Statement → List CheckError
  | none => []
  | some initial => statement env initial

def statements (env : Environment) : List Statement → List CheckError
  | [] => []
  | s :: ss => statement env s ++ statements (after env s) ss
end

def check (p : Program) : List CheckError := statements .outermost p

end DrawScript.Lexical
