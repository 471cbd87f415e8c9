import DefsGlue.Catalogue.Basic

/-! What registering a definition adds to each list of a catalogue. -/
namespace DefsGlue

namespace Definition

def object? : Definition → Option ObjectType
  | object o => some o
  | _ => none

def constructor? : Definition → Option NativeFunction
  | function f => if f.isConstructor then some f else none
  | _ => none

/-- A function that is no constructor. -/
def plainFunction? : Definition → Option NativeFunction
  | function f => if f.isConstructor then none else some f
  | _ => none

def method? : Definition → Option NativeMethod
  | method m => some m
  | _ => none

def enumeration? : Definition → Option EnumType
  | enumeration e => some e
  | _ => none

end Definition

namespace Catalogue

theorem objects_add (c : Catalogue) (d : Definition) :
    (c.add d).objects = c.objects ++ d.object?.toList := by
  cases d <;> simp [add, enlist, index, Definition.object?]
  split <;> rfl

theorem functions_add (c : Catalogue) (d : Definition) :
    (c.add d).functions = c.functions ++ d.plainFunction?.toList := by
  cases d <;> simp [add, enlist, index, Definition.plainFunction?]
  split <;> simp

theorem constructors_add (c : Catalogue) (d : Definition) :
    (c.add d).constructors = c.constructors ++ d.constructor?.toList := by
  cases d <;> simp [add, enlist, index, Definition.constructor?]
  split <;> simp

theorem methods_add (c : Catalogue) (d : Definition) :
    (c.add d).methods = c.methods ++ d.method?.toList := by
  cases d <;> simp [add, enlist, index, Definition.method?]
  split <;> rfl

theorem enumerations_add (c : Catalogue) (d : Definition) :
    (c.add d).enumerations = c.enumerations ++ d.enumeration?.toList := by
  cases d <;> simp [add, enlist, index, Definition.enumeration?]
  split <;> rfl

theorem cNames_add (c : Catalogue) (d : Definition) : (c.add d).cNames = c.cNames ++ [d.cName] := by
  cases d <;> simp [add, enlist, index]
  split <;> rfl

theorem sources_add (c : Catalogue) (d : Definition) : (c.add d).sources = c.sources := by
  cases d <;> simp [add, enlist, index]
  split <;> rfl

/-- The same definitions of each kind, in the same order. -/
structure SameDefinitions (c c' : Catalogue) : Prop where
  objects : c.objects = c'.objects
  functions : c.functions = c'.functions
  constructors : c.constructors = c'.constructors
  methods : c.methods = c'.methods
  enumerations : c.enumerations = c'.enumerations

end Catalogue
end DefsGlue
