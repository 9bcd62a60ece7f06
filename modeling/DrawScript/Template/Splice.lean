import DrawScript.Code.Program

set_option autoImplicit false

namespace DrawScript

namespace Template

inductive Marker where
  | declarations
  | operations
  deriving DecidableEq, Repr

def Marker.text : Marker → String
  | .declarations => "// INSERT VARIABLES"
  | .operations => "// INSERT DRAWINGS"

def find? (text : List Char) : List Char → Option Nat
  | [] => if text = [] then some 0 else none
  | c :: cs => if text.isPrefixOf (c :: cs) then some 0 else (find? text cs).map (· + 1)

def lineLength : List Char → Nat
  | [] => 0
  | c :: cs => if c = '\n' then 1 else lineLength cs + 1

def lineAfter? (text template : List Char) : Option Nat :=
  (find? text template).map fun start => start + lineLength (template.drop start)

def withFinalNewline (template : List Char) : List Char :=
  if template.getLast? = some '\n' then template else template ++ ['\n']

def insertBoth (template : List Char) (first : Nat) (firstText : List Char) (second : Nat)
    (secondText : List Char) : List Char :=
  template.take first ++ firstText ++ (template.drop first).take (second - first) ++ secondText ++
    template.drop second

end Template

structure TemplateError where
  marker : Template.Marker
  deriving DecidableEq, Repr

def TemplateError.message (e : TemplateError) : String :=
  "Template is missing the '" ++ e.marker.text ++ "' marker"

namespace Template

def place (template : List Char) (marker : Marker) : Except TemplateError Nat :=
  match lineAfter? marker.text.toList template with
  | some position => .ok position
  | none => .error ⟨marker⟩

/-- Declarations and operations each go below their marker, whichever marker comes first; where
both go to one place, declarations come first. -/
def splice (template : String) (code : GeneratedCode) : Except TemplateError String := do
  let text := withFinalNewline template.toList
  let upper ← place text .declarations
  let lower ← place text .operations
  let declarations := code.declarations.toList
  let operations := code.operations.toList
  return String.ofList <|
    if upper ≤ lower then insertBoth text upper declarations lower operations
    else insertBoth text lower operations upper declarations

def headerFile (header : String) : String :=
  "#ifndef GLOBALS_H\n#define GLOBALS_H\n\n" ++ header ++ "\n#endif\n"

end Template

end DrawScript
