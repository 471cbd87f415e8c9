import DefsGlue.File.Tree

/-!
Creating directories and writing files. An attempt that fails may have created directories on the
way, so each gives the tree that it leaves beside its outcome.
-/

namespace DefsGlue.FileTree

/-- What an attempt to change the tree leaves, and the fault if it failed. -/
structure Attempt where
  tree : FileTree
  fault? : Option FileFault

namespace Attempt

def fail (t : FileTree) (f : FileFault) : Attempt := ⟨t, some f⟩

/-- Goes on with the tree unless the attempt failed. -/
def andThen (a : Attempt) (next : FileTree → Attempt) : Attempt :=
  match a.fault? with
  | none => next a.tree
  | some _ => a

end Attempt

/-- The directory that a new entry goes into. -/
def place (t : FileTree) (path : String) (ps : List String) : Except FileFault Location := do
  let above ← t.walk (t.origin path) ps
  if t.isDirectory above then return above else throw .notDirectory

/-- Creates one directory. Slashes at the end of its path do not count. -/
def makeDirectory (t : FileTree) (path : String) : Except FileFault FileTree := do
  checkPath path
  match (Path.pieces path.toList).reverse.dropWhile (·.isEmpty) with
  | [] => throw .alreadyExists
  | name :: before =>
    let above ← t.place path before.reverse
    if name == "." || name == ".." then throw .alreadyExists
    if nameLimit < name.utf8ByteSize then throw .nameTooLong
    if (t.entry? (above ++ [name])).isSome then throw .alreadyExists
    return t.set (above ++ [name]) .directory

/-- Creates a directory, or finds that the path already leads to one. -/
def ensureDirectory (t : FileTree) (path : String) : Attempt :=
  match t.makeDirectory path with
  | .ok t' => ⟨t', none⟩
  | .error f => ⟨t, if t.leadsToDirectory path then none else some f⟩

/-- Creates the first of the paths, of which each lies in the next, with what it lacks above it. -/
def ensureChain (t : FileTree) : List String → Attempt
  | [] => ⟨t, none⟩
  | path :: above =>
    if path.isEmpty then ⟨t, none⟩
    else match t.makeDirectory path with
      | .error .notFound => (t.ensureChain above).andThen fun t' => t'.ensureDirectory path
      | .error f => ⟨t, if t.leadsToDirectory path then none else some f⟩
      | .ok t' => ⟨t', none⟩

/-- Creates a directory and all that it lacks above it. -/
def ensureDirectories (t : FileTree) (path : String) : Attempt :=
  t.ensureChain (Path.ancestors path)

/-- The location that a file is written to, which may be new. A path with a slash at its end can
only mean a directory. -/
def fileLocation (t : FileTree) (path : String) : Except FileFault Location := do
  checkPath path
  match (Path.pieces path.toList).reverse.dropWhile (·.isEmpty) with
  | [] => throw .isDirectory
  | name :: before =>
    let above ← t.place path before.reverse
    if name == "." || name == ".." then throw .isDirectory
    if path.toList.getLast? == some '/' then throw .isDirectory
    if nameLimit < name.utf8ByteSize then throw .nameTooLong
    if t.isDirectory (above ++ [name]) then throw .isDirectory
    return above ++ [name]

/-- Writes a file into a directory that exists. -/
def writeFile (t : FileTree) (path : String) (content : ByteArray) : Attempt :=
  match t.fileLocation path with
  | .ok l => ⟨t.set l (.file content), none⟩
  | .error f => .fail t f

/-- Writes a file, with the directories that its path lacks. -/
def write (t : FileTree) (path : String) (content : ByteArray) : Attempt :=
  let parent := Path.parent path
  let made : Attempt := if parent.isEmpty then ⟨t, none⟩ else t.ensureDirectories parent
  made.andThen fun t' => t'.writeFile path content

end DefsGlue.FileTree
