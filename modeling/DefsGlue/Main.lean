import DefsGlue.Program

/-!
The program on a real file system. A run works on a tree of the places it asks for: when it fails
for a path that has not been looked up yet, the path is looked up and the run starts again.
-/

namespace DefsGlue.Main

/-- What stands at a path, if anything does. -/
def lookUp (path : String) : IO (Option Entry) := do
  try
    return some (.file (← IO.FS.readBinFile path))
  catch
    | .inappropriateType .. => return some .directory
    | _ => return none

/-- Adds what stands along a path, up to the first piece that is no directory. -/
def extend (t : FileTree) (path : String) : IO FileTree := do
  let pieces := Path.pieces path.toList
  let mut tree := t
  let mut here := t.origin path
  for n in List.range pieces.length do
    let piece := pieces[n]?.getD ""
    if piece == ".." then here := here.dropLast
    else if !Path.isIdle piece then
      here := here ++ [piece]
      match ← lookUp ("/" ++ "/".intercalate here) with
      | none => return tree
      | some .directory => tree := tree.set here .directory
      | some entry => return tree.set here entry
  return tree

/-- The tree that holds the current directory and nothing else. -/
def bareTree : IO FileTree := do
  let current := Path.pieces (← IO.currentDir).toString.toList
  let here := current.filter (!Path.isIdle ·)
  let above := (List.range here.length).map fun n => (here.take (n + 1), Entry.directory)
  return ⟨above, here⟩

/-- Runs until no failure is due to a path that was not looked up. -/
partial def settle (args : List String) (level? : Option LogLevel) (t : FileTree)
    (known : List String) : IO (FileTree × Program.Run) := do
  let run := Program.run args level? t
  match run.failure? with
  | some (.access path _) =>
    if path ∈ known then return (t, run)
    else settle args level? (← extend t path) (path :: known)
  | _ => return (t, run)

/-- What stands where the options want the output, so that a run sees what is in its way. -/
def withOutput (args : List String) (t : FileTree) : IO FileTree :=
  match Options.parse args with
  | .ok o => match o.out? with
    | some path => extend t path
    | none => return t
  | .error _ => return t

/-- Writes the files that a run changed. -/
def store (run : Program.Run) (before : FileTree) : IO Unit := do
  for (l, content) in run.tree.changedSince before do
    IO.FS.createDirAll ("/" ++ "/".intercalate l.dropLast)
    IO.FS.writeBinFile ("/" ++ "/".intercalate l) content

def report (run : Program.Run) : IO Unit := do
  for w in run.warnings do
    IO.eprintln ("WARN " ++ w.message)
  match run.failure? with
  | some f => IO.eprintln ("Error: " ++ f.message)
  | none => return

end DefsGlue.Main

def main (args : List String) : IO UInt32 := do
  match DefsGlue.Options.parse args with
  | .ok _ | .error .help => pure ()
  | .error r => IO.eprintln ("error: " ++ r.message)
  let level? := (← IO.getEnv "DEFS_LOG").bind DefsGlue.LogLevel.ofText?
  let tree ← DefsGlue.Main.withOutput args (← DefsGlue.Main.bareTree)
  let (before, run) ← DefsGlue.Main.settle args level? tree []
  DefsGlue.Main.report run
  try
    DefsGlue.Main.store run before
    (← IO.getStdout).putStr run.stdout
    return run.exitCode.toUInt32
  catch e =>
    IO.eprintln ("Error: " ++ toString e)
    return 1
