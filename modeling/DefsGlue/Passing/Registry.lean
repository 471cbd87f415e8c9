import DefsGlue.Passing.Binding
import DefsGlue.Passing.Conversion

/-!
Which strategy serves which type. A type is looked up by its exact spelling, and the latest
registration of a spelling counts. A registry takes strategies of any type that can bind parameters
and convert return values; unless another type is named, they are the families given here.
-/

namespace DefsGlue

/-- What a registry asks of its strategies. What they do at a call site is up to them; the families
given here are among them. -/
class Strategies (σ : Type) where
  provided : Strategy → σ
  bind : σ → Parameter → CallSite → Except PassingFault (String × CallSite)
  convert : σ → String → CallSite → Except PassingFault (ReturnForm × CallSite)
  bind_provided (s : Strategy) : bind (provided s) = s.bindAt
  convert_provided (s : Strategy) : convert (provided s) = s.convertAt

instance : Strategies Strategy where
  provided := id
  bind := Strategy.bindAt
  convert := Strategy.convertAt
  bind_provided _ := rfl
  convert_provided _ := rfl

/-- Registrations, latest first. -/
structure Registry (σ : Type := Strategy) where
  entries : List (String × σ)
deriving DecidableEq, Repr

namespace Registry

variable {σ : Type}

def empty : Registry σ := ⟨[]⟩

def add (r : Registry σ) (type : String) (s : σ) : Registry σ :=
  ⟨(type, s) :: r.entries⟩

def addAll (r : Registry σ) (types : List String) (s : σ) : Registry σ :=
  types.foldl (·.add · s) r

def addEnumeration [Strategies σ] (r : Registry σ) (form : EnumForm) (type : String) :
    Registry σ :=
  r.add type (Strategies.provided (.enumeration form type))

/-- An object serves both its name and the pointer to it. -/
def addObject [Strategies σ] (r : Registry σ) (type : String) : Registry σ :=
  let s := Strategies.provided (.object type)
  (r.add type s).add (type ++ "*") s

/-- A boxed value is only ever handled by pointer. -/
def addBoxed [Strategies σ] (r : Registry σ) (type family : String) : Registry σ :=
  r.add (type ++ "*") (Strategies.provided (.boxed family))

/-- The type families of the native library itself. -/
def builtin : Registry :=
  empty
    |>.add "none" .none
    |>.addAll ["char*", "gchar*", "const-char*", "const-gchar*", "string", "static_string",
      "unsigned-char*", "guchar*"] .string
    |>.addAll ["char**", "gchar**"] .stringRef
    |>.addAll ["char", "gchar", "guchar"] .char
    |>.addAll ["int", "gint", "guint", "short", "gshort", "gushort", "long", "glong",
      "gulong", "guint8", "gint8", "guint16", "gint16", "guint32", "gint32", "GtkType"] .int
    |>.addAll ["gint*", "guint*", "guint8*"] .intRef
    |>.add "gboolean" .bool
    |>.addAll ["double", "gdouble", "float", "gfloat"] .double
    |>.add "GdkRectangle*" .rectangle
    |>.addBoxed "GdkEvent" "gdk_event"
    |>.addBoxed "GdkWindow" "gdk_window"
    |>.addBoxed "GdkColor" "gdk_color"

def find? (r : Registry σ) (type : String) : Option σ :=
  r.entries.lookup type

def find (r : Registry σ) (type : String) : Except PassingFault σ :=
  match r.find? type with
  | some s => .ok s
  | none => .error (.unknownType type)

/-- Binds a parameter at a call site and gives its extraction specifier. -/
def bind [Strategies σ] (r : Registry σ) (p : Parameter) (site : CallSite) :
    Except PassingFault (String × CallSite) := do
  let s ← r.find p.type
  Strategies.bind s p site

/-- The conversion of a return value; a call that declares no type returns none. -/
def convert [Strategies σ] (r : Registry σ) (type? : Option String) (site : CallSite) :
    Except PassingFault (ReturnForm × CallSite) := do
  let type := type?.getD "none"
  let s ← r.find type
  Strategies.convert s type site

end Registry
end DefsGlue
