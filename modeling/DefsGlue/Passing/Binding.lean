import DefsGlue.Passing.CallSite
import DefsGlue.Passing.Fault
import DefsGlue.Passing.Strategy
import DefsGlue.TypeName

/-!
Binding parameters: for each strategy, the locals that hold a value, the slots it is extracted into,
the statements that unwrap it, and the expression that the native call receives.
-/

namespace DefsGlue.Strategy

def nullPointer : String := "NULL"

/-- `name`, or `name = value` when there is a value to start with. -/
def initialized (name : String) : Option String → String
  | .none => name
  | some value => name ++ " = " ++ value

/-- The host-language variable that a local is filled from. -/
def hostName (name : String) : String :=
  "php_" ++ name

/-- A host-language variable that is null until it is extracted. -/
def nullHost (name : String) : Local :=
  ⟨"zval", initialized ("*" ++ hostName name) nullPointer⟩

/-- The native object behind a host-language value. -/
def unwrapped (object value : String) : String :=
  TypeName.macroName object ++ "(PHP_GTK_GET(" ++ value ++ "))"

/-- A value extracted straight into a native local. -/
def direct (specifier type name value argument : String) : Binding where
  specifier
  locals := [⟨type, value⟩]
  slots := [⟨"&" ++ name, false⟩]
  arguments := [argument]
  statements := []

/-- A default text is quoted unless it is the null pointer. -/
def stringDefault (value : String) : String :=
  if value = nullPointer then value else "\"" ++ value ++ "\""

/-- A host-language variable that the native call writes into. -/
def byReference (p : Parameter) (storage convert : String) : Binding where
  specifier := "V"
  locals := [nullHost p.name]
  slots := [⟨"&" ++ hostName p.name, true⟩]
  arguments := ["(" ++ p.type ++ ")&" ++ storage ++ "(" ++ hostName p.name ++ ")"]
  statements := ["\t" ++ convert ++ "(" ++ hostName p.name ++ ");\n"]

/-- The runtime helper that turns a nick or a number into the native value. -/
def resolver : EnumForm → String
  | .enum => "php_gtk_get_enum_value"
  | .flags => "php_gtk_get_flag_value"

def bindEnumeration (form : EnumForm) (type : String) (p : Parameter) : Binding where
  specifier := "V"
  locals := [⟨type, initialized p.name p.default?⟩, nullHost p.name]
  slots := [⟨"&" ++ hostName p.name, false⟩]
  arguments := [p.name]
  statements := ["\t" ++ resolver form ++ "(" ++ TypeName.tagMacro type ++ ", " ++
    hostName p.name ++ ", (gint *)&" ++ p.name ++ ");\n\n"]

/-- The slot of an object, which is checked against its class. -/
def objectSlot (object place : String) : Slot :=
  ⟨"&" ++ place ++ ", " ++ TypeName.classEntry object, false⟩

/-- An object or null; an omitted argument keeps its default. -/
def bindNullable (object : String) (p : Parameter) : Binding :=
  let host := hostName p.name
  let value := unwrapped object host
  match p.default? with
  | some default => {
      specifier := "N"
      locals := [⟨object, initialized ("*" ++ p.name) default⟩, nullHost p.name]
      slots := [objectSlot object host]
      arguments := [p.name]
      statements := ["\tif (" ++ host ++ ") \x7b\n\t\tif (Z_TYPE_P(" ++ host ++
        ") == IS_NULL)\n\t\t\t" ++ p.name ++ " = " ++ nullPointer ++ ";\n\t\telse\n\t\t\t" ++
        p.name ++ " = " ++ value ++ ";\n\t\x7d\n"] }
  | .none => {
      specifier := "N"
      locals := [⟨object, initialized ("*" ++ p.name) nullPointer⟩, ⟨"zval", "*" ++ host⟩]
      slots := [objectSlot object host]
      arguments := [p.name]
      statements := ["\tif (Z_TYPE_P(" ++ host ++ ") != IS_NULL)\n\t\t" ++ p.name ++ " = " ++
        value ++ ";\n"] }

/-- An object; without a default it is unwrapped where it is passed. -/
def bindRequired (object : String) (p : Parameter) : Binding :=
  let host := hostName p.name
  match p.default? with
  | some default => {
      specifier := "O"
      locals := [⟨object, initialized ("*" ++ p.name) default⟩, nullHost p.name]
      slots := [objectSlot object host]
      arguments := [p.name]
      statements := ["\tif (" ++ host ++ ")\n\t\t" ++ p.name ++ " = " ++
        unwrapped object host ++ ";\n"] }
  | .none => {
      specifier := "O"
      locals := [⟨"zval", "*" ++ p.name⟩]
      slots := [objectSlot object p.name]
      arguments := [unwrapped object p.name]
      statements := [] }

def bindBoxed (family : String) (p : Parameter) : Binding where
  specifier := "O"
  locals := [⟨"zval", "*" ++ p.name⟩]
  slots := [⟨"&" ++ p.name ++ ", " ++ family ++ "_ce", false⟩]
  arguments := ["PHP_" ++ Text.uppercase family ++ "_GET(" ++ p.name ++ ")"]
  statements := []

/-- One slot for each field of the struct. -/
def bindRectangle (p : Parameter) : Binding where
  specifier := "iiii"
  locals := [⟨TypeName.pointee p.type, p.name⟩]
  slots := ["x", "y", "width", "height"].map fun field =>
    ⟨"&(" ++ p.name ++ "." ++ field ++ ")", false⟩
  arguments := ["&" ++ p.name]
  statements := []

/-- What a parameter of the strategy's type appends to its call. -/
def bind (s : Strategy) (p : Parameter) : Except PassingFault Binding :=
  let cast := "(" ++ p.type ++ ")" ++ p.name
  match s with
  | none => .error (.unsupported s.label .parameter p.type)
  | string => .ok (direct "s" "char" p.name
      (initialized ("*" ++ p.name) (p.default?.map stringDefault)) p.name)
  | stringRef => .ok (byReference p "Z_STRVAL_P" "convert_to_string")
  | char => .ok (direct "c" "char" p.name
      (initialized p.name (p.default?.map fun d => "'" ++ d ++ "'")) p.name)
  | int => .ok (direct "i" "long" p.name (initialized p.name p.default?) cast)
  | intRef => .ok (byReference p "Z_LVAL_P" "convert_to_long")
  | bool => .ok (direct "b" "int" p.name (initialized p.name p.default?) cast)
  | double => .ok (direct "d" "double" p.name (initialized p.name p.default?) p.name)
  | rectangle => .ok (bindRectangle p)
  | enumeration form type => .ok (bindEnumeration form type p)
  | object name => .ok (if p.nullOk then bindNullable name p else bindRequired name p)
  | boxed family => .ok (bindBoxed family p)

/-- Binds a parameter at a call site and gives its extraction specifier. -/
def bindAt (s : Strategy) (p : Parameter) (site : CallSite) :
    Except PassingFault (String × CallSite) := do
  let b ← s.bind p
  return (b.specifier, site.add b)

end DefsGlue.Strategy
