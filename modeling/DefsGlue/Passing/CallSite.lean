import DefsGlue.Declarations

/-!
What is emitted for one native call. Parameters and the return value add to a call site and never
change what it already holds: a contribution only says what to append.
-/

namespace DefsGlue

/-- A parameter as a definition declares it. -/
structure Parameter where
  type : String
  name : String
  default? : Option String
  nullOk : Bool
deriving DecidableEq, Repr

/-- A place that the argument extraction writes to. -/
structure Slot where
  target : String
  /-- The extracted value is written back by the native call. -/
  byRef : Bool
deriving DecidableEq, Repr

/-- A local to declare: its type and its declarator. -/
structure Local where
  type : String
  declarator : String
deriving DecidableEq, Repr

/-- What one parameter appends to a call site, and how its value is extracted. -/
structure Binding where
  specifier : String
  locals : List Local
  slots : List Slot
  arguments : List String
  statements : List String
deriving DecidableEq, Repr

structure CallSite where
  declarations : Declarations
  slots : List Slot
  arguments : List String
  statements : List String
deriving DecidableEq, Repr

namespace CallSite

def empty : CallSite := ⟨.empty, [], [], []⟩

def declare (site : CallSite) (l : Local) : CallSite :=
  { site with declarations := site.declarations.add l.type l.declarator }

def declareAll (site : CallSite) (ls : List Local) : CallSite :=
  ls.foldl declare site

def extract (site : CallSite) (slot : Slot) : CallSite :=
  { site with slots := site.slots ++ [slot] }

def pass (site : CallSite) (argument : String) : CallSite :=
  { site with arguments := site.arguments ++ [argument] }

def prepare (site : CallSite) (statement : String) : CallSite :=
  { site with statements := site.statements ++ [statement] }

def add (site : CallSite) (b : Binding) : CallSite :=
  { site.declareAll b.locals with
    slots := site.slots ++ b.slots
    arguments := site.arguments ++ b.arguments
    statements := site.statements ++ b.statements }

/-- The native call with the arguments passed so far. -/
def call (site : CallSite) (cName : String) : String :=
  cName ++ "(" ++ ", ".intercalate site.arguments ++ ")"

end CallSite
end DefsGlue
