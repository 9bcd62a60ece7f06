import DrawScript.Command.Run

set_option autoImplicit false

namespace DrawScript

def FileError.ofSystem : IO.Error → FileError
  | .noFileOrDirectory .. => .notFound
  | .alreadyExists .. => .alreadyExists
  | .inappropriateType _ 20 _ => .notADirectory
  | .inappropriateType _ 21 _ => .isADirectory
  | error => .other (toString error)

def attempt {α : Type} (action : IO α) : IO (Except FileError α) := do
  try return .ok (← action)
  catch error => return .error (.ofSystem error)

def readText (path : String) : IO (Except FileError String) := do
  match ← attempt (IO.FS.readBinFile path) with
  | .error error => return .error error
  | .ok contents => match String.fromUTF8? contents with
      | some text => return .ok text
      | none => return .error .notText

def Files.onDisk : Files IO where
  read := readText
  write path text := attempt (IO.FS.writeFile path text)
  makeDirectories path := if path = "" then pure (.ok ()) else attempt (IO.FS.createDirAll path)

end DrawScript

open DrawScript in
def main (arguments : List String) : IO UInt32 := do
  let width ← IO.getEnv "DRAWPP_WIDTH"
  let height ← IO.getEnv "DRAWPP_HEIGHT"
  match Command.ofArguments? { width := width, height := height } arguments with
  | none =>
      IO.eprintln "usage: compile FILE [options], parse FILE, check FILE or targets"
      return 2
  | some command =>
      let transcript ← Command.run Files.onDisk command
      IO.print transcript.output
      IO.eprint transcript.errors
      return transcript.exitCode
