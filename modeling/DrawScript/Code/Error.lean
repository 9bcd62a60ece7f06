set_option autoImplicit false

namespace DrawScript

namespace Code

inductive Cause where
  | unsupported (construct : String)
  | notConstant (call : String)
  | drawingAsValue (name : String)
  deriving DecidableEq, Repr

def Cause.message : Cause → String
  | .unsupported construct => construct ++ " is not supported by the C backend"
  | .notConstant call => "arguments of '" ++ call ++ "' must be numeric constants"
  | .drawingAsValue name => "drawing call '" ++ name ++ "' cannot be used as a value"

end Code

structure CodeError where
  line : Nat
  cause : Code.Cause
  deriving DecidableEq, Repr

def CodeError.message (e : CodeError) : String :=
  "Line " ++ toString e.line ++ ": " ++ e.cause.message

end DrawScript
