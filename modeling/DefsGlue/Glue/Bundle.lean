import DefsGlue.Catalogue.Lookup
import DefsGlue.Glue.Fragment

/-!
The bundle of all fragments of a catalogue, or of those that belong to one object. A callable that
takes a variable number of arguments is left out with a warning, whatever its types.
-/

namespace DefsGlue

variable {σ : Type} [Strategies σ]

/-- Serves the objects and enumerations of a catalogue. An enumeration takes precedence over an
object of the same native name. -/
def Registry.addCatalogue (r : Registry σ) (c : Catalogue) : Registry σ :=
  c.enumerations.foldl (fun r e => r.addEnumeration e.form e.cName)
    (c.objects.foldl (fun r o => r.addObject o.cName) r)

/-- A definition that a fragment is made for. -/
inductive Entrypoint where
  | function (f : NativeFunction)
  | method (m : NativeMethod)
deriving DecidableEq, Repr

namespace Entrypoint

def callable : Entrypoint → Callable
  | function f => f.toCallable
  | method m => m.toCallable

def cName (e : Entrypoint) : String :=
  e.callable.cName

def isVariadic (e : Entrypoint) : Bool :=
  e.callable.variadic

def skipWarning : Entrypoint → Warning
  | function f => .variadicFunction f.cName
  | method m => .variadicMethod m.cName

def fragment (r : Registry σ) : Entrypoint → Except Failure Fragment
  | function f => Fragment.ofFunction r f
  | method m => Fragment.ofMethod r m

end Entrypoint

namespace Catalogue

/-- Constructors, then functions, then methods. -/
def entrypoints (c : Catalogue) : List Entrypoint :=
  c.constructors.map .function ++ c.functions.map .function ++ c.methods.map .method

/-- The constructor of an object, then its methods. -/
def entrypointsOf (c : Catalogue) (o : ObjectType) : List Entrypoint :=
  (c.constructorOf? o).toList.map .function ++ (c.methodsOf o).map .method

/-- The object of a name, which has to be in the catalogue. -/
def requireObject (c : Catalogue) (name : String) : Except Failure ObjectType :=
  match c.object? name with
  | some o => .ok o
  | none => .error (.unknownObject name)

/-- The entry points that a filter lets through. -/
def selected (c : Catalogue) : Option String → Except Failure (List Entrypoint)
  | none => .ok c.entrypoints
  | some name => c.entrypointsOf <$> c.requireObject name

end Catalogue

structure Bundle where
  sources : List String
  callables : List Fragment
  /-- The native names of the callables left out. -/
  skipped : List String
deriving DecidableEq, Repr

namespace Bundle

def addFragment (b : Bundle) (f : Fragment) : Bundle :=
  { b with callables := b.callables ++ [f] }

def skip (b : Bundle) (cName : String) : Bundle :=
  { b with skipped := b.skipped ++ [cName] }

/-- The bundle with entry points added until one fails, and the warnings up to there. -/
def addAll (r : Registry σ) (b : Bundle) : List Entrypoint → List Warning × Except Failure Bundle
  | [] => ([], .ok b)
  | e :: es =>
    if e.isVariadic then
      let (warnings, result) := addAll r (b.skip e.cName) es
      (e.skipWarning :: warnings, result)
    else
      match e.fragment r with
      | .ok f => addAll r (b.addFragment f) es
      | .error failure => ([], .error failure)

/-- The bundle of a catalogue, restricted to one object if a name is given. -/
def generate (c : Catalogue) (r : Registry σ) (object? : Option String) :
    List Warning × Except Failure Bundle :=
  match c.selected object? with
  | .ok es => addAll r ⟨c.sources, [], []⟩ es
  | .error failure => ([], .error failure)

end Bundle
end DefsGlue
