/-! How much a run reports besides its result. -/

namespace DefsGlue

inductive LogLevel where
  | off
  | error
  | warn
  | info
  | debug
  | trace
deriving DecidableEq, Repr

namespace LogLevel

def rank : LogLevel → Nat
  | off => 0
  | error => 1
  | warn => 2
  | info => 3
  | debug => 4
  | trace => 5

def label : LogLevel → String
  | off => "off"
  | error => "error"
  | warn => "warn"
  | info => "info"
  | debug => "debug"
  | trace => "trace"

def ofText? (text : String) : Option LogLevel :=
  [off, error, warn, info, debug, trace].find? (·.label == text.toLower)

/-- The level without a setting of its own; quiet wins over verbose. -/
def ofFlags (quiet verbose : Bool) : LogLevel :=
  if quiet then error else if verbose then debug else warn

def showsWarnings (l : LogLevel) : Bool :=
  warn.rank ≤ l.rank

end LogLevel
end DefsGlue
