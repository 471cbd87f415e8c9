/-!
Paths as texts. A path is cut at its slashes; empty pieces and single dots lead nowhere, except for
a dot that the path begins with.
-/

namespace DefsGlue.Path

def pieces (cs : List Char) : List String :=
  (cs.splitOn '/').map String.ofList

def isIdle (piece : String) : Bool :=
  piece == "" || piece == "."

/-- The pieces up to the last that leads somewhere. -/
def trimmed (ps : List String) : List String :=
  (ps.reverse.dropWhile isIdle).reverse

/-- The pieces without the last that leads somewhere and what follows it. -/
def above? (ps : List String) : Option (List String) :=
  match ps.reverse.dropWhile isIdle with
  | [] => none
  | _ :: before => some (trimmed before.reverse)

/-- The directory above a path that begins with `head`. -/
def parentAfter (head : String) (cs : List Char) : String :=
  match above? (pieces cs) with
  | some ps => head ++ "/".intercalate ps
  | none => ""

/-- The directory that a path lies in, spelled as in the path. It is empty for a path of one piece
and for one with nothing above it. -/
def parent (path : String) : String :=
  match path.toList with
  | '/' :: cs => parentAfter "/" cs
  | '.' :: '/' :: cs => parentAfter "." ('/' :: cs)
  | cs => parentAfter "" cs

/-- The path, its parent, the parent of that, and so on: `n` paths in all. -/
def chain : Nat → String → List String
  | 0, _ => []
  | n + 1, path => path :: chain n (parent path)

/-- The path and all above it. No path has more above it than it has pieces. -/
def ancestors (path : String) : List String :=
  chain (pieces path.toList).length path

/-- A name as seen from a directory. A name from the root stands for itself, and an empty directory
adds nothing. -/
def resolve (directory name : String) : String :=
  if name.toList.head? == some '/' then name
  else if directory.isEmpty || directory.toList.getLast? == some '/' then directory ++ name
  else directory ++ "/" ++ name

end DefsGlue.Path
