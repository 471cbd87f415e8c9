/-! Declarations of native locals, one group for each type in the order the types first came up. -/

namespace DefsGlue

structure Declarations where
  groups : List (String × List String)
deriving DecidableEq, Repr

namespace Declarations

def empty : Declarations := ⟨[]⟩

/-- Adds a declarator to the group of its type, or a new group at the end. -/
def insert (type declarator : String) :
    List (String × List String) → List (String × List String)
  | [] => [(type, [declarator])]
  | (t, ds) :: groups =>
    if t = type then (t, ds ++ [declarator]) :: groups
    else (t, ds) :: insert type declarator groups

def add (d : Declarations) (type declarator : String) : Declarations :=
  ⟨insert type declarator d.groups⟩

def isEmpty (d : Declarations) : Bool :=
  d.groups.isEmpty

/-- The number of types. -/
def size (d : Declarations) : Nat :=
  d.groups.length

def line (group : String × List String) : String :=
  "\t" ++ group.1 ++ " " ++ ", ".intercalate group.2 ++ ";\n"

/-- One line for each type, then an empty line unless nothing is declared. -/
def render (d : Declarations) : String :=
  String.join (d.groups.map line) ++ if d.isEmpty then "" else "\n"

end Declarations
end DefsGlue
