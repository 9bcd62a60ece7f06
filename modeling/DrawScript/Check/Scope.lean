set_option autoImplicit false

namespace DrawScript

inductive SymbolKind where
  | number
  | cursor
  | function
  deriving DecidableEq, Repr

def SymbolKind.noun : SymbolKind → String
  | .number => "variable"
  | .cursor => "cursor"
  | .function => "function"

structure Scope where
  parent : Option Nat := none
  symbols : List (String × SymbolKind) := []

structure SymbolTable where
  scopes : Array Scope := #[{}]
  current : Nat := 0

namespace SymbolTable

def enter (t : SymbolTable) : SymbolTable :=
  { scopes := t.scopes.push { parent := some t.current }, current := t.scopes.size }

def leave (t : SymbolTable) : SymbolTable :=
  match t.scopes[t.current]?.bind (·.parent) with
  | some parent => { t with current := parent }
  | none => t

/-- Names are unique in one scope; the error is the kind that a name already has there. -/
def declare (t : SymbolTable) (name : String) (kind : SymbolKind) :
    Except SymbolKind SymbolTable :=
  match t.scopes[t.current]? with
  | none => .ok t
  | some scope => match scope.symbols.lookup name with
      | some existing => .error existing
      | none =>
          let scope := { scope with symbols := (name, kind) :: scope.symbols }
          .ok { t with scopes := t.scopes.setIfInBounds t.current scope }

def lookupFrom (t : SymbolTable) (name : String) : (bound : Nat) → Option Nat → Option SymbolKind
  | bound + 1, some id => match t.scopes[id]? with
      | none => none
      | some scope => match scope.symbols.lookup name with
          | some kind => some kind
          | none => t.lookupFrom name bound scope.parent
  | _, _ => none

def lookup (t : SymbolTable) (name : String) : Option SymbolKind :=
  t.lookupFrom name t.scopes.size (some t.current)

end SymbolTable

end DrawScript
