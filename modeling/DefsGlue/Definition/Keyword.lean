import DefsGlue.Definition.Basic

/-! Keywords that top-level records begin with. Unknown ones are left to later formats. -/

namespace DefsGlue

inductive Keyword where
  | definition (kind : DefinitionKind)
  | inclusion
  | unknown
deriving DecidableEq, Repr

namespace Keyword

def isKeyChar (c : Char) : Bool :=
  c.isAlphanum || c == '_'

/-- A head with every character that no identifier has replaced by an underscore. -/
def key (head : String) : String :=
  String.ofList (head.toList.map fun c => if isKeyChar c then c else '_')

def label : Keyword → String
  | definition kind => kind.label
  | inclusion => "include"
  | unknown => "unknown"

/-- The keyword of a record with the given head. -/
def ofHead (head : String) : Keyword :=
  match key head with
  | "object" => definition .object
  | "function" => definition .function
  | "method" => definition .method
  | "enum" => definition (.enumeration .enum)
  | "flags" => definition (.enumeration .flags)
  | "include" => inclusion
  | _ => unknown

end Keyword
end DefsGlue
