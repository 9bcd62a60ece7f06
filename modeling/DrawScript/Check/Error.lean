import DrawScript.Check.Scope

set_option autoImplicit false

namespace DrawScript

namespace Check

inductive Cause where
  | alreadyDeclared (kind : SymbolKind) (name : String)
  | undeclared (name : String)
  | notACursor (name : String)
  | unknownMethod (method : String)
  | methodArity (method : String) (expected found : Nat)
  | functionArity (function : String) (expected found : Nat)
  | cursorArity (expected found : Nat)
  | readOnly (name : String)
  | notConstant (function : String)
  deriving DecidableEq, Repr

def argumentCount (expected found : Nat) : String :=
  " expects " ++ toString expected ++ " argument(s), got " ++ toString found

def Cause.message : Cause → String
  | .alreadyDeclared kind name => kind.noun ++ " '" ++ name ++ "' is already declared"
  | .undeclared name => "undeclared variable '" ++ name ++ "'"
  | .notACursor name => "'" ++ name ++ "' is not a cursor"
  | .unknownMethod method => "unknown cursor method '" ++ method ++ "'"
  | .methodArity method expected found =>
      "cursor method '" ++ method ++ "'" ++ argumentCount expected found
  | .functionArity function expected found =>
      "function '" ++ function ++ "'" ++ argumentCount expected found
  | .cursorArity expected found => "Cursor constructor" ++ argumentCount expected found
  | .readOnly name => "cannot assign to read-only constant '" ++ name ++ "'"
  | .notConstant function => "arguments of '" ++ function ++ "' must be numeric constants"

end Check

structure CheckError where
  line : Nat
  cause : Check.Cause
  deriving DecidableEq, Repr

def CheckError.message (e : CheckError) : String :=
  "Line " ++ toString e.line ++ ": " ++ e.cause.message

end DrawScript
