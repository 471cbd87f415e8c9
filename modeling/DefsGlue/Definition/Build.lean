import DefsGlue.Definition.Attribute
import DefsGlue.Definition.Basic

/-!
Building definitions from the records that follow a keyword: a name, then attributes. Attributes
that a kind does not know are passed over.
-/

namespace DefsGlue

inductive BuildFault where
  | missingName (kind : DefinitionKind)
  | badAttribute (kind : DefinitionKind) (name key : String)
  | missingOwner (name : String)
deriving DecidableEq, Repr

def BuildFault.message : BuildFault → String
  | missingName kind => kind.label ++ " definition has no name"
  | badAttribute kind name key =>
    kind.label ++ " '" ++ name ++ "': malformed (" ++ key ++ " ...) attribute"
  | missingOwner name => "method '" ++ name ++ "' does not name its object"

namespace Build

/-- The name that a definition begins with, and its attributes. -/
def heading (kind : DefinitionKind) : List Record → Except BuildFault (String × List Attribute)
  | [] => .error (.missingName kind)
  | first :: rest =>
    match first.spelling? with
    | some name => .ok (name, Attribute.ofRecords rest)
    | none => .error (.missingName kind)

/-- Reads every attribute of a key, all of which have to be well formed. -/
def readAll {α : Type} (kind : DefinitionKind) (name key : String) (read : List Record → Option α)
    (as : List Attribute) : Except BuildFault (List α) :=
  match (Attribute.all key as).mapM read with
  | some values => .ok values
  | none => .error (.badAttribute kind name key)

def field? (values : List Record) : Option Field :=
  (Attribute.typedName? values).map fun (type, name) => ⟨type, name⟩

def parameter? (values : List Record) : Option Parameter := do
  let (type, name) ← Attribute.typedName? values
  let inner := Attribute.ofRecords values
  return {
    type, name
    default? := Attribute.lastText? "default" inner
    nullOk := Attribute.has "null-ok" inner }

def enumMember? (values : List Record) : Option EnumMember := do
  let inner := Attribute.ofRecords values
  let name ← Attribute.lastText? "name" inner
  let cName ← Attribute.lastText? "c-name" inner
  return ⟨name, cName⟩

def owner? (values : List Record) : Option Owner :=
  (Attribute.text? values).map fun name => ⟨name, Attribute.module? values⟩

def object (args : List Record) : Except BuildFault ObjectType := do
  let (name, as) ← heading .object args
  let fields ← readAll .object name "field" field? as
  let parent? := Attribute.last? "parent" as
  return {
    name, fields
    module? := Attribute.lastText? "in-module" as
    parent? := parent?.bind Attribute.text?
    parentModule? := parent?.bind Attribute.module?
    cName := (Attribute.lastGivenText? "c-name" as).getD name }

def callable (kind : DefinitionKind) (name : String) (as : List Attribute) :
    Except BuildFault Callable := do
  let parameters ← readAll kind name "parameter" parameter? as
  return {
    name, parameters
    cName := (Attribute.lastText? "c-name" as).getD name
    returnType? := Attribute.lastText? "return-type" as
    variadic := Attribute.has "varargs" as }

def function (args : List Record) : Except BuildFault NativeFunction := do
  let (name, as) ← heading .function args
  let shared ← callable .function name as
  return {
    toCallable := shared
    constructs? := (Attribute.first? "is-constructor-of" as).bind Attribute.text? }

def method (args : List Record) : Except BuildFault NativeMethod := do
  let (name, as) ← heading .method args
  let shared ← callable .method name as
  match (Attribute.first? "of-object" as).bind owner? with
  | some owner => return { toCallable := shared, owner }
  | none => throw (.missingOwner name)

def enumeration (form : EnumForm) (args : List Record) : Except BuildFault EnumType := do
  let (name, as) ← heading (.enumeration form) args
  let values ← readAll (.enumeration form) name "value" enumMember? as
  return {
    form, name, values
    module? := Attribute.lastText? "in-module" as
    cName := (Attribute.lastGivenText? "c-name" as).getD name }

end Build

/-- The definition of a kind that the records after its keyword describe. -/
def Definition.build : DefinitionKind → List Record → Except BuildFault Definition
  | .object, args => .object <$> Build.object args
  | .function, args => .function <$> Build.function args
  | .method, args => .method <$> Build.method args
  | .enumeration form, args => .enumeration <$> Build.enumeration form args

end DefsGlue
