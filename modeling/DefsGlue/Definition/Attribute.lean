import DefsGlue.Record.Basic

/-!
Attributes of a definition: the lists among its records that begin with a name. The same key may
occur several times; each reader of a key says which occurrence counts.
-/

namespace DefsGlue

/-- A keyed list `(key value ...)`. -/
structure Attribute where
  key : String
  values : List Record
deriving DecidableEq, Repr

namespace Attribute

def ofRecord? : Record → Option Attribute
  | .list (first :: values) => first.name?.map (⟨·, values⟩)
  | _ => none

def ofRecords (rs : List Record) : List Attribute :=
  rs.filterMap ofRecord?

/-- The values of every attribute of one key, in order. -/
def all (key : String) (as : List Attribute) : List (List Record) :=
  (as.filter (·.key == key)).map values

def first? (key : String) (as : List Attribute) : Option (List Record) :=
  (all key as).head?

def last? (key : String) (as : List Attribute) : Option (List Record) :=
  (all key as).getLast?

def has (key : String) (as : List Attribute) : Bool :=
  !(all key as).isEmpty

/-- The scalar that a list of values begins with, as it is spelled. -/
def text? (values : List Record) : Option String :=
  values.head?.bind Record.spelling?

/-- The scalar of the last attribute of the key; a last one without a scalar hides the others. -/
def lastText? (key : String) (as : List Attribute) : Option String :=
  (last? key as).bind text?

/-- The scalar of the last attribute of the key that has one. -/
def lastGivenText? (key : String) (as : List Attribute) : Option String :=
  ((all key as).filterMap text?).getLast?

/-- The module after a name, as a scalar or as a list that begins with it. -/
def module? (values : List Record) : Option String :=
  match values.drop 1 with
  | .list items :: _ => text? items
  | .leaf s :: _ => some s.spelling
  | [] => none

/-- The type and the name in the first `(type-and-name type name)` among the values. -/
def typedName? (values : List Record) : Option (String × String) := do
  let inner ← first? "type-and-name" (ofRecords values)
  let type ← text? inner
  let name ← text? (inner.drop 1)
  return (type, name)

end Attribute
end DefsGlue
