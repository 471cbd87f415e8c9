import DefsGlue.Catalogue.Basic
import DefsGlue.Passing.Registry

/-!
The pieces of glue code around one native call: the declarations, the extraction of arguments, the
call, and the conversion of what it returns.
-/

namespace DefsGlue

inductive Role where
  | function
  | constructor
  | method
deriving DecidableEq, Repr

def Role.label : Role → String
  | function => "function"
  | constructor => "constructor"
  | method => "method"

structure Fragment where
  cName : String
  role : Role
  /-- The type that a method belongs to. -/
  ofObject? : Option String
  declarations : String
  /-- The specifiers of the extraction, with a bar before the first optional parameter. -/
  format : String
  parseTargets : List String
  byRef : List Bool
  extraCode : String
  call : String
  returnCode : String
deriving DecidableEq, Repr

namespace Registry

variable {σ : Type} [Strategies σ]

/-- Binds parameters in order and gives the format of their extraction. The bar stands before the
first parameter with a default, unless `optional` says that one came earlier. -/
def bindAll (r : Registry σ) (optional : Bool) (site : CallSite) :
    List Parameter → Except PassingFault (String × CallSite)
  | [] => .ok ("", site)
  | p :: ps => do
    let bar := if p.default?.isSome && !optional then "|" else ""
    let (specifier, site) ← r.bind p site
    let (format, site) ← r.bindAll (optional || p.default?.isSome) site ps
    return (bar ++ specifier ++ format, site)

end Registry

namespace Fragment

variable {σ : Type} [Strategies σ]

/-- The native object that a method is called on. -/
def self (owner : Owner) : String :=
  Strategy.unwrapped owner.type "this_ptr"

/-- The call site before any parameter: a method passes its object first. -/
def opening (owner? : Option Owner) : CallSite :=
  match owner? with
  | some owner => CallSite.empty.pass (self owner)
  | none => .empty

def assemble (r : Registry σ) (f : Callable) (role : Role) (owner? : Option Owner) :
    Except PassingFault Fragment := do
  let (format, site) ← r.bindAll false (opening owner?) f.parameters
  let (form, site) ← r.convert f.returnType? site
  return {
    cName := f.cName
    role, format
    ofObject? := owner?.map Owner.type
    declarations := site.declarations.render
    parseTargets := site.slots.map Slot.target
    byRef := site.slots.map Slot.byRef
    extraCode := String.join site.statements
    call := site.call f.cName
    returnCode := form.around (site.call f.cName) }

/-- A fragment, or the failure that names the definition it was for. -/
def make (r : Registry σ) (f : Callable) (role : Role) (owner? : Option Owner) :
    Except Failure Fragment :=
  match assemble r f role owner? with
  | .ok fragment => .ok fragment
  | .error e => .error (.generate f.cName e)

def ofFunction (r : Registry σ) (f : NativeFunction) : Except Failure Fragment :=
  make r f.toCallable (if f.isConstructor then .constructor else .function) none

def ofMethod (r : Registry σ) (m : NativeMethod) : Except Failure Fragment :=
  make r m.toCallable .method m.owner

end Fragment
end DefsGlue
