import DefsGlue.Catalogue.Listing
import DefsGlue.Catalogue.Load
import DefsGlue.File.Output
import DefsGlue.Glue.Layout
import DefsGlue.LogLevel
import DefsGlue.Options
import DefsGlue.Text.Line

/-!
A whole run of the program over a tree of files. The text is complete before anything is written,
and it is written to one place.
-/

namespace DefsGlue.Program

/-- What a run leaves behind. -/
structure Run where
  exitCode : UInt8
  stdout : String
  failure? : Option Failure
  /-- The warnings that the log level lets through. -/
  warnings : List Warning
  tree : FileTree

namespace Run

/-- The line of the report that begins with the failure. Names may hold line breaks; what follows
one stands on a line of its own. -/
def failureLine? (r : Run) : Option String :=
  r.failure?.map fun f => Text.firstLine f.message

/-- The lines of the report that begin with a warning. -/
def warningLines (r : Run) : List String :=
  r.warnings.map fun w => Text.firstLine w.message

end Run

/-- The text that the options ask of a catalogue, and the warnings on the way to it. -/
def render (o : Options) (c : Catalogue) : List Warning × Except Failure String :=
  if o.summary then ([], c.listing o.object?)
  else
    let (warnings, bundle) := Bundle.generate c (Registry.builtin.addCatalogue c) o.object?
    (warnings, Bundle.render <$> bundle)

/-- Everything up to the text: loading, and then what the options ask for. -/
def compile (o : Options) (t : FileTree) : List Warning × Except Failure String :=
  let loaded := Catalogue.loadFile t o.input .empty
  match loaded.failure? with
  | some f => (loaded.catalogue.warnings, .error f)
  | none =>
    let (warnings, text) := render o loaded.catalogue
    (loaded.catalogue.warnings ++ warnings, text)

/-- Puts the text where the options say. -/
def deliver (o : Options) (t : FileTree) (text : String) : Run :=
  match o.out? with
  | none => ⟨0, text, none, [], t⟩
  | some path =>
    let written := t.write path text.toUTF8
    match written.fault? with
    | none => ⟨0, "", none, [], written.tree⟩
    | some fault => ⟨1, "", some (.access path fault), [], written.tree⟩

/-- A run with its options understood. A level that is set wins over the options. -/
def runWith (o : Options) (level? : Option LogLevel) (t : FileTree) : Run :=
  let level := level?.getD (.ofFlags o.quiet o.verbose)
  let (warnings, text) := compile o t
  let run := match text with
    | .ok text => deliver o t text
    | .error f => ⟨1, "", some f, [], t⟩
  { run with warnings := if level.showsWarnings then warnings else [] }

/-- A run on the arguments after the name of the program. -/
def run (args : List String) (level? : Option LogLevel) (t : FileTree) : Run :=
  match Options.parse args with
  | .ok o => runWith o level? t
  | .error .help => ⟨0, Options.helpText, none, [], t⟩
  | .error _ => ⟨2, "", none, [], t⟩

end DefsGlue.Program
