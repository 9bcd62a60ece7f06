set_option autoImplicit false

namespace DrawScript.Path

def segments (path : String) : List String :=
  (path.toList.splitOn '/').map String.ofList

def ofSegments (parts : List String) : String := String.intercalate "/" parts

def counts (segment : String) : Bool := segment ≠ "" && segment ≠ "."

/-- Drops what does not count from the back; the first segment counts unless it is empty. -/
def trimmed : List String → List String
  | [] => []
  | first :: rest =>
      let kept := (rest.reverse.dropWhile fun s => !counts s).reverse
      if kept = [] && first = "" then [] else first :: kept

def parent? (path : String) : Option String :=
  match trimmed (segments path) with
  | [] => none
  | parts =>
      let around := ofSegments (trimmed parts.dropLast)
      some (if around = "" && path.startsWith "/" then "/" else around)

def join (directory name : String) : String :=
  if directory = "" || directory.endsWith "/" then directory ++ name else directory ++ "/" ++ name

end DrawScript.Path
