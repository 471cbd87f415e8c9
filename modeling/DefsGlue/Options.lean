/-!
The command line. Options may stand before or after the input, and two dashes end them. A value is
assigned to its option, or a positional argument to the input, only when the next item that is not
a value comes up or the line ends; what is wrong with the assignment shows at that point.
-/

namespace DefsGlue

structure Options where
  input : String
  out? : Option String
  summary : Bool
  object? : Option String
  verbose : Bool
  quiet : Bool
deriving DecidableEq, Repr

/-- Why a command line gives no options. -/
inductive Refusal where
  | help
  | unknownArgument
  | missingInput
  | invalidValue
  | tooManyValues
  | conflict
deriving DecidableEq, Repr

def Refusal.message : Refusal → String
  | help => "help was asked for"
  | unknownArgument => "unexpected argument"
  | missingInput => "the input file is missing"
  | invalidValue => "an option lacks its value, or a path is empty"
  | tooManyValues => "a flag takes no value"
  | conflict => "an option is given twice, or two options exclude each other"

namespace Options

/-- What takes a value. -/
inductive Receiver where
  | input
  | out
  | object
deriving DecidableEq, Repr

inductive Switch where
  | summary
  | verbose
  | quiet
  | help
deriving DecidableEq, Repr

/-- An option as the command line names it. -/
inductive Known where
  | receiver (r : Receiver)
  | switch (s : Switch)
deriving DecidableEq, Repr

def Known.ofLong? : String → Option Known
  | "out" => some (.receiver .out)
  | "object" => some (.receiver .object)
  | "summary" => some (.switch .summary)
  | "verbose" => some (.switch .verbose)
  | "quiet" => some (.switch .quiet)
  | "help" => some (.switch .help)
  | _ => none

def Known.ofShort? : Char → Option Known
  | 'o' => some (.receiver .out)
  | 'v' => some (.switch .verbose)
  | 'q' => some (.switch .quiet)
  | 'h' => some (.switch .help)
  | _ => none

/-- An assignment that is still to be made; its value may be missing. -/
structure Assignment where
  receiver : Receiver
  value? : Option String
deriving DecidableEq, Repr

/-- The options gathered so far. -/
structure Draft where
  input? : Option String
  out? : Option String
  object? : Option String
  summary : Bool
  verbose : Bool
  quiet : Bool
  pending? : Option Assignment
deriving DecidableEq, Repr

namespace Draft

def empty : Draft := ⟨none, none, none, false, false, false, none⟩

def value? (d : Draft) : Receiver → Option String
  | .input => d.input?
  | .out => d.out?
  | .object => d.object?

def set (d : Draft) (value : String) : Receiver → Draft
  | .input => { d with input? := some value }
  | .out => { d with out? := some value }
  | .object => { d with object? := some value }

/-- Gives a receiver its value. Paths must not be empty, and nothing is given twice. -/
def assign (d : Draft) (r : Receiver) (value : String) : Except Refusal Draft :=
  if (d.value? r).isSome then .error .conflict
  else if value.isEmpty && r != .object then .error .invalidValue
  else .ok (d.set value r)

/-- Makes the assignment that is pending. -/
def settle (d : Draft) : Except Refusal Draft :=
  match d.pending? with
  | none => .ok d
  | some ⟨_, none⟩ => .error .invalidValue
  | some ⟨r, some value⟩ => { d with pending? := none }.assign r value

/-- A receiver whose value is the next argument, if that can be one. -/
def await (d : Draft) (r : Receiver) : Except Refusal Draft := do
  return { (← d.settle) with pending? := some ⟨r, none⟩ }

/-- A receiver with its value in the same argument. -/
def attach (d : Draft) (r : Receiver) (value : String) : Except Refusal Draft := do
  (← d.settle).assign r value

def flip (d : Draft) : Switch → Except Refusal Draft
  | .summary => if d.summary then .error .conflict else .ok { d with summary := true }
  | .verbose => if d.verbose then .error .conflict else .ok { d with verbose := true }
  | .quiet => if d.quiet then .error .conflict else .ok { d with quiet := true }
  | .help => .error .help

def switchOn (d : Draft) (s : Switch) : Except Refusal Draft := do
  (← d.settle).flip s

/-- An argument that is no option. Only one can be the input. -/
def positional (d : Draft) (value : String) : Except Refusal Draft :=
  if d.input?.isSome || d.pending?.any (·.receiver == .input) then .error .unknownArgument
  else do return { (← d.settle) with pending? := some ⟨.input, some value⟩ }

/-- A text that can be a value: for the option that waits for one, or for the input. -/
def plain (d : Draft) (value : String) : Except Refusal Draft :=
  match d.pending? with
  | some ⟨r, none⟩ => .ok { d with pending? := some ⟨r, some value⟩ }
  | _ => d.positional value

/-- An option by its long name, with what follows the first equals sign if there is one. -/
def long (d : Draft) (body : List Char) : Except Refusal Draft :=
  let name := String.ofList (body.takeWhile (· != '='))
  match Known.ofLong? name, body.dropWhile (· != '=') with
  | none, _ => .error .unknownArgument
  | some (.receiver r), [] => d.await r
  | some (.receiver r), _ :: value => d.attach r (.ofList value)
  | some (.switch s), [] => d.switchOn s
  | some (.switch _), _ :: _ => .error .tooManyValues

/-- What follows a short option that takes a value, without an equals sign that begins it. -/
def attached : List Char → String
  | '=' :: cs => String.ofList cs
  | cs => String.ofList cs

/-- A group of short options; one that takes a value takes the rest of the group. -/
def short (d : Draft) : List Char → Except Refusal Draft
  | [] => .ok d
  | c :: cs =>
    match Known.ofShort? c with
    | none => .error .unknownArgument
    | some (.switch s) => do (← d.switchOn s).short cs
    | some (.receiver r) => if cs.isEmpty then d.await r else d.attach r (attached cs)

/-- All arguments from the left. -/
def takeAll (d : Draft) : List String → Except Refusal Draft
  | [] => .ok d
  | arg :: args =>
    match arg.toList with
    | ['-', '-'] => args.foldlM positional d
    | '-' :: '-' :: body => do (← d.long body).takeAll args
    | '-' :: c :: cs => do (← d.short (c :: cs)).takeAll args
    | _ => do (← d.plain arg).takeAll args

/-- The options at the end of the line. Verbose and quiet exclude each other. -/
def finish (d : Draft) : Except Refusal Options := do
  let d ← d.settle
  if d.verbose && d.quiet then throw .conflict
  match d.input? with
  | none => throw .missingInput
  | some input => return ⟨input, d.out?, d.summary, d.object?, d.verbose, d.quiet⟩

end Draft

/-- Reads the arguments after the name of the program. -/
def parse (args : List String) : Except Refusal Options := do
  (← Draft.empty.takeAll args).finish

def helpLines : List String := [
  "Generates PHP-GTK marshaling fragments from .defs interface descriptions",
  "",
  "Usage: defs-compiler [OPTIONS] <DEFS>",
  "",
  "Arguments:",
  "  <DEFS>  Primary .defs file; includes are resolved relative to it",
  "",
  "Options:",
  "  -o, --out <FILE>     Write the JSON fragment bundle to FILE instead of stdout",
  "      --summary        Print a summary of the parsed definitions instead of fragments",
  "      --object <NAME>  Restrict output to one object, its constructor and its methods",
  "  -v, --verbose        Log debug output to stderr",
  "  -q, --quiet          Only log errors",
  "  -h, --help           Print help"]

def helpText : String :=
  String.join (helpLines.map (· ++ "\n"))

end Options
end DefsGlue
