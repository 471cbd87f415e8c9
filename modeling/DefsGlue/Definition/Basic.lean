import DefsGlue.Passing.CallSite
import DefsGlue.Passing.Strategy

/-! The definitions of a native interface: objects, functions, methods, and enumerations. -/

namespace DefsGlue

inductive DefinitionKind where
  | object
  | function
  | method
  | enumeration (form : EnumForm)
deriving DecidableEq, Repr

/-- The keyword that introduces a definition of the kind. -/
def DefinitionKind.label : DefinitionKind → String
  | object => "object"
  | function => "function"
  | method => "method"
  | enumeration form => form.label

structure Field where
  type : String
  name : String
deriving DecidableEq, Repr

structure ObjectType where
  name : String
  module? : Option String
  parent? : Option String
  parentModule? : Option String
  cName : String
  fields : List Field
deriving DecidableEq, Repr

/-- A native type's name: the module, if any, and the name in it. -/
def qualified (module? : Option String) (name : String) : String :=
  module?.getD "" ++ name

/-- The native type of the declared parent. -/
def ObjectType.parentType? (o : ObjectType) : Option String :=
  o.parent?.map (qualified o.parentModule?)

/-- What functions and methods have in common. -/
structure Callable where
  name : String
  cName : String
  returnType? : Option String
  parameters : List Parameter
  variadic : Bool
deriving DecidableEq, Repr

/-- A function that creates an object is its constructor. -/
structure NativeFunction extends Callable where
  constructs? : Option String
deriving DecidableEq, Repr

def NativeFunction.isConstructor (f : NativeFunction) : Bool :=
  f.constructs?.isSome

/-- The object that a method belongs to. -/
structure Owner where
  name : String
  module? : Option String
deriving DecidableEq, Repr

def Owner.type (o : Owner) : String :=
  qualified o.module? o.name

structure NativeMethod extends Callable where
  owner : Owner
deriving DecidableEq, Repr

structure EnumMember where
  name : String
  cName : String
deriving DecidableEq, Repr

structure EnumType where
  form : EnumForm
  name : String
  module? : Option String
  cName : String
  values : List EnumMember
deriving DecidableEq, Repr

inductive Definition where
  | object (o : ObjectType)
  | function (f : NativeFunction)
  | method (m : NativeMethod)
  | enumeration (e : EnumType)
deriving DecidableEq, Repr

def Definition.cName : Definition → String
  | object o => o.cName
  | function f => f.cName
  | method m => m.cName
  | enumeration e => e.cName

end DefsGlue
