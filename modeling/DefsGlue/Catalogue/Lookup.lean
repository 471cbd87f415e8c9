import DefsGlue.Catalogue.Basic

/-! Finding what belongs to an object. Where several definitions match, the earliest counts. -/

namespace DefsGlue.Catalogue

/-- An object by its name or its native name. -/
def object? (c : Catalogue) (name : String) : Option ObjectType :=
  c.objects.find? fun o => o.name == name || o.cName == name

def methodsOf (c : Catalogue) (o : ObjectType) : List NativeMethod :=
  c.methods.filter fun m => m.owner.name == o.name && m.owner.module? == o.module?

/-- Whether a constructor's target names the object, the framework's marker allowed in front. -/
def isTarget (o : ObjectType) (target : String) : Bool :=
  target == o.name || target == "Gtk" ++ o.name

def constructorOf? (c : Catalogue) (o : ObjectType) : Option NativeFunction :=
  c.constructors.find? fun f => f.constructs?.any (isTarget o)

def parentOf? (c : Catalogue) (o : ObjectType) : Option ObjectType :=
  o.parent?.bind fun parent => c.objects.find? (·.name == parent)

end DefsGlue.Catalogue
