import DrawScript.Command.Path
import DrawScript.Compile

set_option autoImplicit false

namespace DrawScript

/-- A file whose bytes are not text has none. -/
inductive FileTree.Entry where
  | directory
  | file (text : Option String)
  deriving DecidableEq, Repr

structure FileTree where
  entries : List (List String × FileTree.Entry) := []
  deriving DecidableEq, Repr

namespace FileTree

def entry? (t : FileTree) (names : List String) : Option Entry :=
  if names = [] then some .directory else t.entries.lookup names

def put (t : FileTree) (names : List String) (entry : Entry) : FileTree :=
  { entries := (names, entry) :: t.entries.filter (·.1 ≠ names) }

def walk (t : FileTree) (names : List String) : List String → Except FileError (List String)
  | [] => .ok names
  | segment :: rest => match t.entry? names with
      | none => .error .notFound
      | some (.file _) => .error .notADirectory
      | some .directory =>
          if segment = ".." then t.walk names.dropLast rest
          else if Path.counts segment then t.walk (names ++ [segment]) rest
          else t.walk names rest

def resolve (t : FileTree) (path : String) : Except FileError (List String) :=
  t.walk [] (Path.segments path)

def read (t : FileTree) (path : String) : Except FileError String := do
  let names ← t.resolve path
  match t.entry? names with
  | none => .error .notFound
  | some .directory => .error .isADirectory
  | some (.file none) => .error .notText
  | some (.file (some text)) => .ok text

def write (t : FileTree) (path : String) (text : String) : Except FileError FileTree := do
  let names ← t.resolve path
  match t.entry? names with
  | some .directory => .error .isADirectory
  | _ => .ok (t.put names (.file (some text)))

def makeDirectory (t : FileTree) (path : String) : Except FileError FileTree := do
  let parts := ((Path.segments path).reverse.dropWhile (· = "")).reverse
  let around ← t.walk [] parts.dropLast
  match t.entry? around, parts.getLast? with
  | none, _ => .error .notFound
  | some (.file _), _ => .error .notADirectory
  | some .directory, none => .error .alreadyExists
  | some .directory, some name =>
      if !Path.counts name || name = ".." then .error .alreadyExists
      else match t.entry? (around ++ [name]) with
        | some _ => .error .alreadyExists
        | none => .ok (t.put (around ++ [name]) .directory)

def isDirectory (t : FileTree) (path : String) : Bool :=
  match t.resolve path with
  | .ok names => t.entry? names = some .directory
  | .error _ => false

def ensureDirectory (t : FileTree) (path : String) : Except FileError FileTree :=
  match t.makeDirectory path with
  | .error error => if t.isDirectory path then .ok t else .error error
  | done => done

/-- Creates a directory and what is missing around it. The segments of the path bound the steps. -/
def makeDirectoriesWithin (t : FileTree) : (bound : List String) → String →
    Except FileError FileTree
  | [], _ => .ok t
  | _ :: bound, path =>
      if path = "" then .ok t
      else match t.ensureDirectory path with
        | .error .notFound => match Path.parent? path with
            | none => .error .notFound
            | some parent => do
                let t ← t.makeDirectoriesWithin bound parent
                t.ensureDirectory path
        | done => done

def makeDirectories (t : FileTree) (path : String) : Except FileError FileTree :=
  t.makeDirectoriesWithin ("" :: Path.segments path) path

def withFile (t : FileTree) (path : String) (text : Option String) : FileTree :=
  let names := (Path.segments path).filter Path.counts
  let lengths := (List.range names.length).drop 1
  (lengths.foldl (fun t n => t.put (names.take n) .directory) t).put names (.file text)

def changedSince (t before : FileTree) : List (List String × Option String) :=
  t.entries.filterMap fun (names, entry) =>
    match entry with
    | .file text => if before.entry? names = some entry then none else some (names, text)
    | .directory => none

end FileTree

end DrawScript
