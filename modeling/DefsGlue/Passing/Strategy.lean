/-!
The families of native types. A strategy stands for one family, and says how its values cross into
and out of a call; that of a named type carries the name it was made for.
-/

namespace DefsGlue

inductive EnumForm where
  | enum
  | flags
deriving DecidableEq, Repr

def EnumForm.label : EnumForm → String
  | enum => "enum"
  | flags => "flags"

inductive Strategy where
  /-- No value at all; only a return type. -/
  | none
  | string
  | stringRef
  | char
  | int
  | intRef
  | bool
  | double
  /-- Four integers in a struct that is passed by address. -/
  | rectangle
  | enumeration (form : EnumForm) (name : String)
  | object (name : String)
  /-- A value that a wrapper family of the host language owns. -/
  | boxed (family : String)
deriving DecidableEq, Repr

namespace Strategy

def label : Strategy → String
  | none => "none"
  | string => "string"
  | stringRef => "string reference"
  | char => "char"
  | int => "int"
  | intRef => "int reference"
  | bool => "bool"
  | double => "double"
  | rectangle => "rectangle"
  | enumeration form _ => form.label
  | object _ => "object"
  | boxed _ => "boxed"

end Strategy
end DefsGlue
