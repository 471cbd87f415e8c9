import DefsGlue.Glue.Bundle

/-! Listings of a catalogue for people: objects with what belongs to them, functions, and enums. -/

namespace DefsGlue.Catalogue

/-- The parent as listed: by its native name if it is known, else by its declared type. -/
def parentNote (c : Catalogue) (o : ObjectType) : String :=
  match c.parentOf? o, o.parentType? with
  | some parent, _ => " : " ++ parent.cName
  | none, some type => " : " ++ type ++ " (undefined)"
  | none, none => ""

def constructorNote (c : Catalogue) (o : ObjectType) : String :=
  match c.constructorOf? o with
  | some f => ", new " ++ f.cName
  | none => ", no constructor"

def objectEntry (c : Catalogue) (o : ObjectType) : String :=
  "  " ++ o.cName ++ c.parentNote o ++ c.constructorNote o ++ ", " ++
    toString (c.methodsOf o).length ++ " method(s)\n"

def enumerationLine (e : EnumType) : String :=
  "  " ++ e.cName ++ " [" ++ e.form.label ++ ", " ++ toString e.values.length ++ " value(s)]\n"

/-- A heading with the number of the lines under it. -/
def block (title : String) (lines : List String) : String :=
  title ++ " (" ++ toString lines.length ++ "):\n" ++ String.join lines

def fullListing (c : Catalogue) : String :=
  block "objects" (c.objects.map c.objectEntry) ++
    block "functions" (c.functions.map fun f => "  " ++ f.cName ++ "\n") ++
    block "enums" (c.enumerations.map enumerationLine)

def objectListing (c : Catalogue) (o : ObjectType) : String :=
  c.objectEntry o ++ String.join ((c.methodsOf o).map fun m => "    " ++ m.cName ++ "\n")

/-- The listing of a catalogue, or of one object and its methods. -/
def listing (c : Catalogue) : Option String → Except Failure String
  | none => .ok c.fullListing
  | some name => c.objectListing <$> c.requireObject name

end DefsGlue.Catalogue
