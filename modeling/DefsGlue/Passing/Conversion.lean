import DefsGlue.Passing.CallSite
import DefsGlue.Passing.Fault
import DefsGlue.Passing.ReturnForm
import DefsGlue.Passing.Strategy
import DefsGlue.TypeName

/-! Converting return values: for each strategy, the statements around the native call. -/

namespace DefsGlue.Strategy

/-- A return value's conversion, and the locals it needs. -/
structure Conversion where
  locals : List Local
  form : ReturnForm
deriving DecidableEq, Repr

/-- Text that outlives the call belongs to the library and is not released. -/
def isBorrowed (type : String) : Bool :=
  type == "const-gchar*" || type == "const-char*" || type == "static_string"

def convertString (type : String) : Conversion :=
  if isBorrowed type then
    ⟨[⟨"const gchar", "*ret"⟩],
      ⟨"\tret = %s;\n\tif (ret) \x7b\n\t\tRETURN_STRING((char *)ret, 1);\n\t\x7d\n\telse \x7b\n" ++
        "\t\tRETURN_NULL();\n\t\x7d"⟩⟩
  else
    ⟨[⟨"gchar", "*ret"⟩],
      ⟨"\tret = %s;\n\tif (ret) \x7b\n\t\tRETVAL_STRING(ret, 1);\n\t\tg_free(ret);\n\t\x7d else" ++
        "\n\t\tRETVAL_NULL();"⟩⟩

/-- How a value of the strategy's type is returned to the host language. -/
def convert (s : Strategy) (type : String) : Except PassingFault Conversion :=
  match s with
  | none => .ok ⟨[], ⟨"\t%s;\n\tRETURN_NULL();"⟩⟩
  | string => .ok (convertString type)
  | char => .ok ⟨[⟨"gchar", "ret[2]"⟩],
      ⟨"\tret[0] = %s;\n\tret[1] = '\\0';\n\tRETURN_STRINGL(ret, 1, 1);"⟩⟩
  | int | enumeration .. => .ok ⟨[], ⟨"\tRETURN_LONG(%s);"⟩⟩
  | bool => .ok ⟨[], ⟨"\tRETURN_BOOL(%s);"⟩⟩
  | double => .ok ⟨[], ⟨"\tRETURN_DOUBLE(%s);"⟩⟩
  | object _ => .ok ⟨[⟨"zval", "*ret"⟩],
      ⟨"\tret = php_gtk_new((GtkObject *)%s);\n\t*return_value = *ret;"⟩⟩
  | boxed family => .ok ⟨[⟨TypeName.pointee type, "*ret"⟩],
      ⟨"\tret = %s;\n\t*return_value = *php_" ++ family ++ "_new(ret);"⟩⟩
  | stringRef | intRef | rectangle => .error (.unsupported s.label .result type)

/-- Declares at a call site what the conversion of a return value needs. -/
def convertAt (s : Strategy) (type : String) (site : CallSite) :
    Except PassingFault (ReturnForm × CallSite) := do
  let c ← s.convert type
  return (c.form, site.declareAll c.locals)

end DefsGlue.Strategy
