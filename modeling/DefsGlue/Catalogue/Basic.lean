import DefsGlue.Failure

/-!
The catalogue of all definitions read so far, in the order they were registered. It also knows
which files it came from and which of them are being read.
-/

namespace DefsGlue

structure Catalogue where
  objects : List ObjectType
  functions : List NativeFunction
  constructors : List NativeFunction
  methods : List NativeMethod
  enumerations : List EnumType
  /-- The native name of every definition, whatever its kind. -/
  cNames : List String
  /-- The files read, as their paths were spelled. -/
  sources : List String
  /-- The files being read, outermost first. -/
  including : List Location
  warnings : List Warning
deriving DecidableEq

namespace Catalogue

def empty : Catalogue := ⟨[], [], [], [], [], [], [], [], []⟩

/-- Adds a native name to the index; one that is there already is worth a warning. -/
def index (c : Catalogue) (cName : String) : Catalogue :=
  { c with
    cNames := c.cNames ++ [cName]
    warnings := c.warnings ++ if cName ∈ c.cNames then [.repeatedName cName] else [] }

/-- Adds a definition to the list of its kind. -/
def enlist (c : Catalogue) : Definition → Catalogue
  | .object o => { c with objects := c.objects ++ [o] }
  | .function f =>
    if f.isConstructor then { c with constructors := c.constructors ++ [f] }
    else { c with functions := c.functions ++ [f] }
  | .method m => { c with methods := c.methods ++ [m] }
  | .enumeration e => { c with enumerations := c.enumerations ++ [e] }

/-- Registers a definition. Definitions that share a native name are all kept. -/
def add (c : Catalogue) (d : Definition) : Catalogue :=
  (c.index d.cName).enlist d

/-- Begins to read a file: its path is a source, and it is open until `leave`. -/
def enter (c : Catalogue) (path : String) (l : Location) : Catalogue :=
  { c with sources := c.sources ++ [path], including := c.including ++ [l] }

/-- Ends the reading of the innermost file. -/
def leave (c : Catalogue) : Catalogue :=
  { c with including := c.including.dropLast }

@[simp] theorem including_add (c : Catalogue) (d : Definition) :
    (c.add d).including = c.including := by
  cases d <;> simp [add, enlist, index]
  split <;> rfl

@[simp] theorem including_enter (c : Catalogue) (path : String) (l : Location) :
    (c.enter path l).including = c.including ++ [l] := rfl

end Catalogue
end DefsGlue
