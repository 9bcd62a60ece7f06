import DrawScript.Check.Program
import DrawScript.Grammar.Program
import DrawScript.Template.Bundled
import DrawScript.Template.Splice
import DrawScript.Token.Reading

set_option autoImplicit false

namespace DrawScript

inductive FileError where
  | notFound
  | notADirectory
  | isADirectory
  | alreadyExists
  | notText
  | other (text : String)
  deriving DecidableEq, Repr

def FileError.message : FileError → String
  | .notFound => "No such file or directory (os error 2)"
  | .notADirectory => "Not a directory (os error 20)"
  | .isADirectory => "Is a directory (os error 21)"
  | .alreadyExists => "File exists (os error 17)"
  | .notText => "stream did not contain valid UTF-8"
  | .other text => text

inductive CompileError where
  | lexical (errors : List LexicalError)
  | grammar (errors : List GrammarError)
  | check (errors : List CheckError)
  | code (error : CodeError)
  | template (error : TemplateError)
  | unknownTarget (name : String)
  | file (error : FileError)
  deriving DecidableEq, Repr

namespace CompileError

def message : CompileError → String
  | .lexical errors => toString errors.length ++ " lexer error(s)"
  | .grammar errors => toString errors.length ++ " syntax error(s)"
  | .check errors => toString errors.length ++ " semantic error(s)"
  | .code error => "Backend error: " ++ error.message
  | .template error => error.message
  | .unknownTarget name => "Unknown target: " ++ name
  | .file error => "IO error: " ++ error.message

def diagnostics : CompileError → List String
  | .lexical errors => errors.map LexicalError.message
  | .grammar errors => errors.map GrammarError.message
  | .check errors => errors.map CheckError.message
  | error => [error.message]

end CompileError

inductive Target where
  | c
  deriving DecidableEq, Repr

namespace Target

def all : List Target := [.c]

def name : Target → String
  | .c => "c"

def describe : Target → String
  | .c => "C source for the SDL2 drawing runtime"

def named (name : String) : Except CompileError Target :=
  match all.find? (·.name = name) with
  | some target => .ok target
  | none => .error (.unknownTarget name)

end Target

def parseScript (script : String) : Except CompileError Program :=
  let reading := tokenize script
  if reading.errors ≠ [] then .error (.lexical reading.errors)
  else
    let parsed := parse reading.tokens
    if parsed.errors ≠ [] then .error (.grammar parsed.errors) else .ok parsed.program

def checkScript (script : String) : Except CompileError Program := do
  let program ← parseScript script
  let errors := program.check
  if errors ≠ [] then .error (.check errors) else return program

def generateFor (target : Target) (surface : Surface) (program : Program) :
    Except CompileError GeneratedCode :=
  match target with
  | .c => (program.generate surface).mapError .code

def compileScript (target : Target) (surface : Surface) (script : String) :
    Except CompileError GeneratedCode := do
  generateFor target surface (← checkScript script)

def spliceInto (template : String) (code : GeneratedCode) : Except CompileError String :=
  (Template.splice template code).mapError .template

end DrawScript
