import DefsGlue.Passing.Registry

/-!
Parameters and results written piece by piece into a call site that the caller keeps. What was
written before a fault stays at the site.
-/

namespace DefsGlue

abbrev Writing := EStateM PassingFault CallSite

namespace Writing

def declare (l : Local) : Writing Unit :=
  modify (·.declare l)

def extract (slot : Slot) : Writing Unit :=
  modify (·.extract slot)

def pass (argument : String) : Writing Unit :=
  modify (·.pass argument)

def prepare (statement : String) : Writing Unit :=
  modify (·.prepare statement)

end Writing

namespace Binding

def write (b : Binding) : Writing String := do
  b.locals.forM Writing.declare
  b.slots.forM Writing.extract
  b.arguments.forM Writing.pass
  b.statements.forM Writing.prepare
  return b.specifier

/-- The same with the statements ahead of the slots. -/
def writeStatementsFirst (b : Binding) : Writing String := do
  b.locals.forM Writing.declare
  b.statements.forM Writing.prepare
  b.slots.forM Writing.extract
  b.arguments.forM Writing.pass
  return b.specifier

end Binding

namespace Strategy

/-- Writes a parameter of the strategy's type and gives its extraction specifier. -/
def write (s : Strategy) (p : Parameter) : Writing String :=
  match s with
  | object name =>
    if p.nullOk then (bindNullable name p).writeStatementsFirst else (bindRequired name p).write
  | s => do
    let b ← ofExcept (s.bind p)
    b.write

/-- Writes what a result of the strategy's type needs and gives the statements that convert it. -/
def writeResult (s : Strategy) (type : String) : Writing ReturnForm := do
  let c ← ofExcept (s.convert type)
  c.locals.forM Writing.declare
  return c.form

end Strategy

namespace Registry

def writeParameter (r : Registry) (p : Parameter) : Writing String := do
  let s ← ofExcept (r.find p.type)
  s.write p

def writeResult (r : Registry) (type? : Option String) : Writing ReturnForm := do
  let type := type?.getD "none"
  let s ← ofExcept (r.find type)
  s.writeResult type

end Registry
end DefsGlue
