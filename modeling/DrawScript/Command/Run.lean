import DrawScript.Command.Arguments
import DrawScript.Command.FileTree
import DrawScript.Script.Outline

set_option autoImplicit false

namespace DrawScript

structure Files (m : Type → Type) where
  read : String → m (Except FileError String)
  write : String → String → m (Except FileError Unit)
  makeDirectories : String → m (Except FileError Unit)

structure Transcript where
  exitCode : UInt32
  output : String
  errors : String
  deriving DecidableEq, Repr

def FileTree.change (attempt : FileTree → Except FileError FileTree) :
    StateM FileTree (Except FileError Unit) := fun t =>
  match attempt t with
  | .ok t => (.ok (), t)
  | .error error => (.error error, t)

def Files.ofTree : Files (StateM FileTree) where
  read path := fun t => (t.read path, t)
  write path text := FileTree.change (·.write path text)
  makeDirectories path := FileTree.change (·.makeDirectories path)

namespace Command

variable {m : Type → Type} [Monad m]

abbrev Session (m : Type → Type) := ExceptT CompileError (StateT String m)

def say (line : String) : Session m Unit := modify (· ++ line ++ "\n")

def onFiles {α : Type} (action : m (Except FileError α)) : Session m α :=
  ExceptT.mk do return (← action).mapError .file

def ofResult {α : Type} (result : Except CompileError α) : Session m α :=
  ExceptT.mk (pure result)

def lineCount (text : String) : Nat := text.toList.count '\n'

def bodyFile : String := "main.c"

def headerFile : String := "globals.h"

def readTemplate (files : Files m) : Option String → Session m String
  | some path => onFiles (files.read path)
  | none => return Template.bundled

def outputDirectory (options : CompileOptions) : String :=
  options.output.getD ((Path.parent? options.input).getD "")

def runCompile (files : Files m) (options : CompileOptions) : Session m Unit := do
  say ("Compiling " ++ options.input ++ " for " ++ options.target ++ "...")
  let target ← ofResult (Target.named options.target)
  let script ← onFiles (files.read options.input)
  let program ← ofResult (checkScript script)
  if options.showTree then
    say "=== AST ==="
    say (program.outline.render 0)
  let code ← ofResult (generateFor target options.surface program)
  let template ← readTemplate files options.template
  let body ← ofResult (spliceInto template code)
  let directory := outputDirectory options
  onFiles (files.makeDirectories directory)
  let bodyPath := Path.join directory bodyFile
  let headerPath := Path.join directory headerFile
  onFiles (files.write bodyPath body)
  onFiles (files.write headerPath (Template.headerFile code.header))
  say ("Surface: " ++ toString options.surface.width.toNat ++ "x" ++
    toString options.surface.height.toNat)
  say ("Compiled to: " ++ bodyPath)
  say ("Header: " ++ headerPath)
  say ("Generated " ++ toString (lineCount code.declarations) ++ " declaration line(s), " ++
    toString (lineCount code.operations) ++ " operation line(s)")

def padLeft (width : Nat) (text : String) : String :=
  String.ofList (List.replicate (width - text.length) ' ') ++ text

def padRight (width : Nat) (text : String) : String :=
  text ++ String.ofList (List.replicate (width - text.length) ' ')

def tokenLine (token : Token) : String :=
  padLeft 4 (toString token.line) ++ "  " ++ token.kind.name ++ "  " ++ token.text

def runParse (files : Files m) (input : String) : Session m Unit := do
  say ("Parsing " ++ input ++ "...")
  let script ← onFiles (files.read input)
  say "=== SOURCE ==="
  say script
  say "=== TOKENS ==="
  let reading := tokenize script
  for token in reading.tokens do
    say (tokenLine token)
  say "=== AST ==="
  let parsed := DrawScript.parse reading.tokens
  say (parsed.program.outline.render 0)
  if reading.errors ≠ [] then throw (.lexical reading.errors)
  if parsed.errors ≠ [] then throw (.grammar parsed.errors)

def runCheck (files : Files m) (input : String) : Session m Unit := do
  say ("Checking " ++ input ++ "...")
  let script ← onFiles (files.read input)
  let program ← ofResult (checkScript script)
  say ("No problems found (" ++ toString program.length ++ " top-level statement(s))")

def runTargets : Session m Unit := do
  say "Supported targets:"
  for target in Target.all do
    say ("  " ++ padRight 8 target.name ++ " - " ++ target.describe)

def perform (files : Files m) : Command → Session m Unit
  | .compile options => runCompile files options
  | .parse input => runParse files input
  | .check input => runCheck files input
  | .targets => runTargets

def report (error : CompileError) : List String :=
  match error with
  | .lexical _ | .grammar _ | .check _ => error.diagnostics ++ [error.message]
  | _ => error.diagnostics

def run (files : Files m) (command : Command) : m Transcript := do
  let (result, output) ← (perform files command).run.run ""
  match result with
  | .ok () => return { exitCode := 0, output := output, errors := "" }
  | .error error =>
      return {
        exitCode := 1
        output := output
        errors := String.join ((report error).map (· ++ "\n")) }

end Command

end DrawScript
