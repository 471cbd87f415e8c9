import DefsGlue.File.Path

/-!
A tree of directories and files with a current directory. Every path is resolved piece by piece, so
that two spellings of one place meet in one location.
-/

namespace DefsGlue

/-- Why a path cannot be read or written. -/
inductive FileFault where
  | notFound
  | alreadyExists
  | notDirectory
  | isDirectory
  | nameTooLong
  | notText
  | nulCharacter
deriving DecidableEq, Repr

def FileFault.message : FileFault → String
  | notFound => "No such file or directory (os error 2)"
  | alreadyExists => "File exists (os error 17)"
  | notDirectory => "Not a directory (os error 20)"
  | isDirectory => "Is a directory (os error 21)"
  | nameTooLong => "File name too long (os error 36)"
  | notText => "stream did not contain valid UTF-8"
  | nulCharacter => "file name contained an unexpected NUL byte"

/-- A place in the tree: the names from the root down, none of them empty or dots. -/
abbrev Location := List String

inductive Entry where
  | directory
  | file (content : ByteArray)

namespace Entry

def decEq : (a b : Entry) → Decidable (a = b)
  | directory, directory => isTrue rfl
  | file a, file b =>
    match ByteArray.instDecidableEq a b with
    | isTrue h => isTrue (congrArg file h)
    | isFalse h => isFalse fun hab => h (file.inj hab)
  | directory, file _ => isFalse nofun
  | file _, directory => isFalse nofun

instance : DecidableEq Entry := decEq

end Entry

/-- The root is a directory without being listed. -/
structure FileTree where
  entries : List (Location × Entry)
  current : Location

namespace FileTree

def entry? (t : FileTree) (l : Location) : Option Entry :=
  if l.isEmpty then some .directory else t.entries.lookup l

def set (t : FileTree) (l : Location) (e : Entry) : FileTree :=
  { t with entries := (l, e) :: t.entries.filter (·.1 != l) }

def isDirectory (t : FileTree) (l : Location) : Bool :=
  t.entry? l == some .directory

/-- The length in bytes from which on a whole path is refused. -/
def pathLimit : Nat := 4096

/-- The greatest length in bytes of one name. -/
def nameLimit : Nat := 255

/-- Refuses a path by its text alone. -/
def checkPath (path : String) : Except FileFault Unit :=
  if path.toList.contains '\x00' then .error .nulCharacter
  else if pathLimit ≤ path.utf8ByteSize then .error .nameTooLong
  else if path.isEmpty then .error .notFound
  else .ok ()

/-- Where a path starts from. -/
def origin (t : FileTree) (path : String) : Location :=
  if path.toList.head? == some '/' then [] else t.current

/-- One step down, up, or nowhere; only a directory can be stepped from. -/
def step (t : FileTree) (here : Location) (piece : String) : Except FileFault Location :=
  if !t.isDirectory here then .error .notDirectory
  else if Path.isIdle piece then .ok here
  else if piece == ".." then .ok here.dropLast
  else if nameLimit < piece.utf8ByteSize then .error .nameTooLong
  else if (t.entry? (here ++ [piece])).isNone then .error .notFound
  else .ok (here ++ [piece])

def walk (t : FileTree) (here : Location) (ps : List String) : Except FileFault Location :=
  ps.foldlM t.step here

/-- The location that a path leads to. -/
def locate (t : FileTree) (path : String) : Except FileFault Location := do
  checkPath path
  t.walk (t.origin path) (Path.pieces path.toList)

/-- The text of the file at a location. -/
def textAt (t : FileTree) (l : Location) : Except FileFault String :=
  match t.entry? l with
  | none => .error .notFound
  | some .directory => .error .isDirectory
  | some (.file content) =>
    match String.fromUTF8? content with
    | some text => .ok text
    | none => .error .notText

/-- A location with a text is listed. -/
theorem mem_of_textAt {t : FileTree} {l : Location} {text : String} (h : t.textAt l = .ok text) :
    ∃ e ∈ t.entries, e.1 = l := by
  have hl : (t.entries.lookup l).isSome := by
    cases hn : t.entries.lookup l with
    | some _ => rfl
    | none => cases l <;> simp [textAt, entry?, hn] at h
  obtain ⟨e, he, hk⟩ := List.lookup_isSome_iff.mp hl
  exact ⟨e, he, (eq_of_beq hk).symm⟩

def read (t : FileTree) (path : String) : Except FileFault String := do
  t.textAt (← t.locate path)

/-- Whether a path leads to a directory. -/
def leadsToDirectory (t : FileTree) (path : String) : Bool :=
  match t.locate path with
  | .ok l => t.isDirectory l
  | .error _ => false

/-- The files of the tree that differ from what another tree has in their place. -/
def changedSince (t old : FileTree) : List (Location × ByteArray) :=
  t.entries.filterMap fun (l, e) =>
    match e with
    | .directory => none
    | .file content => if old.entry? l == some (.file content) then none else some (l, content)

end FileTree
end DefsGlue
