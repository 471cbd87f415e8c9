import DefsGlue.Text.Casing

/-!
Identifiers derived from the name of a native type. A name is split into words, each headed by one
or two capitals; its macro name joins the words in upper case.
-/

namespace DefsGlue.TypeName

def isCapital (c : Char) : Bool :=
  'A' ≤ c && c ≤ 'Z'

def isTail (c : Char) : Bool :=
  !isCapital c

theorem length_dropWhile_le (p : Char → Bool) (cs : List Char) :
    (cs.dropWhile p).length ≤ cs.length :=
  (List.dropWhile_suffix p).length_le

/-- Words of a name. A word is a capital, any character after it, and all that follows up to the
next capital; what stands before the first capital belongs to none. -/
def split : List Char → List (List Char)
  | [] => []
  | [c] => if isCapital c then [[c]] else []
  | c :: d :: cs =>
    if isCapital c then (c :: d :: cs.takeWhile isTail) :: split (cs.dropWhile isTail)
    else split (d :: cs)
termination_by cs => cs.length
decreasing_by
  · have := length_dropWhile_le isTail cs
    simp
    omega
  · simp

def words (name : String) : List String :=
  (split name.toList).map String.ofList

/-- The name in capitals with an underscore between its words, as cast macros are called. -/
def macroName (name : String) : String :=
  Text.uppercase ("_".intercalate (words name))

def underscored (name : String) : String :=
  "_" ++ macroName name

/-- The macro of the type's runtime tag. The framework's own marker gives way to the tag's head,
unless nothing would follow. -/
def tagMacro (name : String) : String :=
  match "_GTK".toList.isPrefixOf? (underscored name).toList with
  | some (c :: rest) => "GTK_TYPE" ++ String.ofList (c :: rest)
  | _ => "GTK_TYPE" ++ underscored name

/-- The class entry that an object of the type is checked against. -/
def classEntry (name : String) : String :=
  Text.lowercase (macroName name) ++ "_ce"

/-- Drops one trailing pointer mark. -/
def pointee (name : String) : String :=
  match name.toList.reverse with
  | '*' :: front => String.ofList front.reverse
  | _ => name

end DefsGlue.TypeName
