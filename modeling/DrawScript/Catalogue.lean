set_option autoImplicit false

namespace DrawScript.Catalogue

inductive DrawAction where
  | shape (routine : String) (thickness : Bool)
  | setColor
  | setThickness
  deriving DecidableEq, Repr

def DrawAction.needsConstants : DrawAction → Bool
  | .setColor | .setThickness => true
  | .shape _ _ => false

structure DrawFunction where
  name : String
  arity : Nat
  action : DrawAction
  deriving DecidableEq, Repr

def shape (name : String) (arity : Nat) : DrawFunction := ⟨name, arity, .shape name false⟩

def drawFunctions : List DrawFunction :=
  [shape "drawCircle" 3, shape "drawFilledCircle" 3, shape "drawEllipse" 5,
    shape "drawFilledEllipse" 5, shape "drawRoundedRectangle" 6, shape "drawBox" 5,
    shape "drawRoundedBox" 6, ⟨"drawSegment", 4, .shape "drawSegment" true⟩,
    shape "drawTriangle" 7, shape "drawRectangle" 5, shape "drawPoint" 2,
    ⟨"setRGBA", 4, .setColor⟩, ⟨"setThickness", 1, .setThickness⟩]

def drawFunction? (name : String) : Option DrawFunction := drawFunctions.find? (·.name = name)

inductive CursorAction where
  | draw
  | move
  | rotate
  | setColor
  | setThickness
  deriving DecidableEq, Repr

def CursorAction.needsConstants : CursorAction → Bool
  | .setColor => true
  | _ => false

structure CursorMethod where
  name : String
  arity : Nat
  routine : String
  action : CursorAction
  deriving DecidableEq, Repr

def cursorMethods : List CursorMethod :=
  [⟨"move", 2, "Cursor_Move", .move⟩, ⟨"rotate", 1, "Cursor_Rotate", .rotate⟩,
    ⟨"setRGBA", 4, "Cursor_SetColor", .setColor⟩,
    ⟨"setThickness", 1, "Cursor_SetThickness", .setThickness⟩,
    ⟨"drawCircle", 1, "Cursor_DrawCircle", .draw⟩,
    ⟨"drawFilledCircle", 1, "Cursor_DrawFilledCircle", .draw⟩,
    ⟨"drawEllipse", 2, "Cursor_DrawEllipse", .draw⟩,
    ⟨"drawFilledEllipse", 2, "Cursor_DrawFilledEllipse", .draw⟩,
    ⟨"drawRoundedRectangle", 3, "Cursor_DrawRoundedRectangle", .draw⟩,
    ⟨"drawBox", 2, "Cursor_DrawBox", .draw⟩,
    ⟨"drawRoundedBox", 3, "Cursor_DrawRoundedBox", .draw⟩,
    ⟨"drawSegment", 1, "Cursor_DrawSegment", .draw⟩,
    ⟨"drawTriangle", 4, "Cursor_DrawTriangle", .draw⟩,
    ⟨"drawRectangle", 2, "Cursor_DrawRectangle", .draw⟩,
    ⟨"drawPoint", 0, "Cursor_DrawPoint", .draw⟩]

def cursorMethod? (name : String) : Option CursorMethod := cursorMethods.find? (·.name = name)

def cursorConstructor : String := "Cursor_Constructor"

def cursorConstructorArity : Nat := 2

def surfaceNames : List (String × String) :=
  [("CANVAS_WIDTH", "SCREEN_WIDTH"), ("CANVAS_HEIGHT", "SCREEN_HEIGHT")]

def surfaceName? (name : String) : Option String := surfaceNames.lookup name

def isSurfaceName (name : String) : Bool := (surfaceName? name).isSome

end DrawScript.Catalogue
