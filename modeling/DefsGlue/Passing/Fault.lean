/-! Why a type cannot be used in a call. -/

namespace DefsGlue

inductive Direction where
  | parameter
  | result
deriving DecidableEq, Repr

def Direction.text : Direction → String
  | parameter => "bind a parameter"
  | result => "convert a return value"

inductive PassingFault where
  | unknownType (type : String)
  /-- The strategy of the type, told by its label, does not go that way. -/
  | unsupported (label : String) (direction : Direction) (type : String)
deriving DecidableEq, Repr

def PassingFault.message : PassingFault → String
  | unknownType type => "no argument type registered for '" ++ type ++ "'"
  | unsupported label direction type =>
    label ++ " argument cannot " ++ direction.text ++ " (type '" ++ type ++ "')"

end DefsGlue
