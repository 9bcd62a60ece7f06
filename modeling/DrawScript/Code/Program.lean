import DrawScript.Code.Statement

set_option autoImplicit false

namespace DrawScript

structure Surface where
  width : UInt32 := 800
  height : UInt32 := 600
  deriving DecidableEq, Repr

-- C text for the three places of a finished program.
structure GeneratedCode where
  declarations : String
  operations : String
  header : String
  deriving DecidableEq, Repr

def Surface.header (s : Surface) : String :=
  "#define SCREEN_WIDTH " ++ toString s.width.toNat ++ "\n" ++
    "#define SCREEN_HEIGHT " ++ toString s.height.toNat ++ "\n"

namespace Code

def resetSheet : Writer Unit :=
  modify fun sheet => { sheet with pen := {}, indent := 1, output := "" }

def takeOutput : Writer String := do
  let text := (← get).output
  modify fun sheet => { sheet with output := "" }
  return text

def sections (p : Program) : Writer (String × String) := do
  resetSheet
  -- Variables of the outermost level are declared before everything else.
  let (declared, others) := p.partition Statement.isVar
  statements declared
  let declarations ← takeOutput
  statements others
  let operations ← takeOutput
  return (declarations, operations)

end Code

structure Generator where
  surface : Surface
  sheet : Code.Sheet := {}
  deriving DecidableEq, Repr

def Generator.run (g : Generator) (p : Program) : Except CodeError GeneratedCode × Generator :=
  match (Code.sections p).run g.sheet with
  | .ok (declarations, operations) sheet =>
      (.ok { declarations, operations, header := g.surface.header }, { g with sheet })
  | .error error sheet => (.error error, { g with sheet })

def Program.generate (p : Program) (surface : Surface) : Except CodeError GeneratedCode :=
  (Generator.run ⟨surface, {}⟩ p).1

end DrawScript
