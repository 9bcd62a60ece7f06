import DrawScript.Code.Program

set_option autoImplicit false

namespace DrawScript.Command

structure CompileOptions where
  input : String
  target : String := "c"
  output : Option String := none
  surface : Surface := {}
  template : Option String := none
  showTree : Bool := false
  deriving DecidableEq, Repr

end Command

inductive Command where
  | compile (options : Command.CompileOptions)
  | parse (input : String)
  | check (input : String)
  | targets
  deriving DecidableEq, Repr

namespace Command

inductive ValueOption where
  | target
  | output
  | width
  | height
  | template
  deriving DecidableEq, Repr

inductive Given where
  | positional (text : String)
  | value (option : ValueOption) (text : String)
  | showTree
  deriving DecidableEq, Repr

inductive Shape where
  | plain
  | endOfOptions
  | long (name : List Char) (attached : Option (List Char))
  | short (letter : Char) (attached : List Char)

def longShape (text : List Char) : Shape :=
  let name := text.takeWhile (· ≠ '=')
  match text.dropWhile (· ≠ '=') with
  | [] => .long name none
  | _ :: value => .long name (some value)

def shapeOf (argument : String) : Shape :=
  match argument.toList with
  | ['-', '-'] => .endOfOptions
  | '-' :: '-' :: text => longShape text
  | '-' :: letter :: attached => .short letter attached
  | _ => .plain

def longOption? (name : String) : Option ValueOption :=
  [("target", ValueOption.target), ("output", .output), ("width", .width), ("height", .height),
    ("template", .template)].lookup name

def shortOption? : Char → Option ValueOption
  | 't' => some .target
  | 'o' => some .output
  | _ => none

def attachedValue? : List Char → Option String
  | [] => none
  | '=' :: value => some (String.ofList value)
  | value => some (String.ofList value)

/-- Reads arguments; `pending` is an option that still waits for its value. -/
def scan : (pending : Option ValueOption) → List String → Option (List Given)
  | none, [] => some []
  | some _, [] => none
  | pending, argument :: rest => match shapeOf argument, pending with
      | .plain, none => (scan none rest).map (.positional argument :: ·)
      | .plain, some option => (scan none rest).map (.value option argument :: ·)
      | .endOfOptions, none => some (rest.map .positional)
      | .long name attached, none =>
          if String.ofList name = "show-ast" then
            if attached.isNone then (scan none rest).map (.showTree :: ·) else none
          else do
            let option ← longOption? (String.ofList name)
            match attached with
            | some value => (scan none rest).map (.value option (String.ofList value) :: ·)
            | none => scan (some option) rest
      | .short letter attached, none => do
          let option ← shortOption? letter
          match attachedValue? attached with
          | some value => (scan none rest).map (.value option value :: ·)
          | none => scan (some option) rest
      | _, some _ => none

def positionals (given : List Given) : List String :=
  given.filterMap fun
    | .positional text => some text
    | _ => none

def valuesOf (option : ValueOption) (given : List Given) : List String :=
  given.filterMap fun
    | .value other text => if other = option then some text else none
    | _ => none

def atMostOne {α : Type} : List α → Option (Option α)
  | [] => some none
  | [x] => some (some x)
  | _ => none

def path? (text : String) : Option String := if text = "" then none else some text

def digits? (text : List Char) : Option Nat :=
  if text ≠ [] && text.all Char.isDigit then some (Nat.ofDigitChars 10 text 0) else none

/-- Decimal digits after an optional sign, with a value that fits into 32 bits. -/
def size? (text : String) : Option UInt32 := do
  let size ← match text.toList with
    | '+' :: rest => digits? rest
    | '-' :: rest => (digits? rest).filter (· = 0)
    | rest => digits? rest
  if size < UInt32.size then some (UInt32.ofNat size) else none

def sizeOf? (given inherited : Option String) (fallback : UInt32) :
    Option UInt32 :=
  match given <|> inherited with
  | some text => size? text
  | none => some fallback

structure Environment where
  width : Option String := none
  height : Option String := none
  deriving DecidableEq, Repr

def compileOptions? (environment : Environment) (given : List Given) : Option CompileOptions := do
  let [input] := positionals given | none
  let target ← atMostOne (valuesOf .target given)
  let output ← atMostOne (valuesOf .output given)
  let template ← atMostOne (valuesOf .template given)
  let width ← atMostOne (valuesOf .width given)
  let height ← atMostOne (valuesOf .height given)
  let showTree ← atMostOne (given.filter (· = .showTree))
  return {
    input := ← path? input
    target := target.getD "c"
    output := ← output.mapM path?
    surface :=
      { width := ← sizeOf? width environment.width 800
        height := ← sizeOf? height environment.height 600 }
    template := ← template.mapM path?
    showTree := showTree.isSome }

def plainPaths? (arguments : List String) : Option (List String) := do
  let given ← scan none arguments
  if given.length = (positionals given).length then some (positionals given) else none

def ofArguments? (environment : Environment) : List String → Option Command
  | "compile" :: arguments => do
      return .compile (← compileOptions? environment (← scan none arguments))
  | "parse" :: arguments => do
      let [input] ← plainPaths? arguments | none
      return .parse (← path? input)
  | "check" :: arguments => do
      let [input] ← plainPaths? arguments | none
      return .check (← path? input)
  | "targets" :: arguments => do
      let [] ← plainPaths? arguments | none
      return .targets
  | _ => none

end Command

end DrawScript
