/-
The program.

It lays the files that a command line speaks of into the tree of a session, runs the command line
there and writes what comes out.
-/
import SwatchIndex.CommandLine.Run
import SwatchIndex.Document.Relaxed

namespace SwatchIndex.Program

/-- What the system's error says about a file. -/
def problem : IO.Error → FileProblem
  | .permissionDenied .. => .denied
  | .noFileOrDirectory .. => .notFound
  | .inappropriateType .. => .notDirectory
  | _ => .inputOutput

/-- A tree with the file at a place, or with the directory there and all that is below it.  What is
there but cannot be read or listed is kept as such; what cannot be looked up is left out. -/
partial def load (tree : Tree) (place : Place) : IO Tree := do
  try
    let path ← IO.FS.realPath (Text.str place.text)
    let found ← path.metadata
    match found.type with
    | .file =>
      let stamp := Stamp.ofParts found.modified.sec found.modified.nsec.toNat
      try
        pure (tree.write place (← IO.FS.readBinFile path).toList stamp)
      catch e => pure (tree.install place (.file [] stamp (problem e)))
    | .dir =>
      try
        (← path.readDir).foldlM (fun tree entry => load tree (place.child entry.fileName.toList))
          (tree.makeDirectory place)
      catch e => pure (tree.install place (.directory { listing := problem e }))
    | _ => pure tree
  catch _ => pure tree

/-- The place of an absolute path. -/
def place (path : String) : Place := ⟨[], (Path.parse path.toList).parts⟩

/-- The home directories of users, as far as the system lists them. -/
def users : IO (List (Text × Text)) := do
  try
    let lines ← IO.FS.lines "/etc/passwd"
    pure (lines.toList.filterMap fun line =>
      match line.toList.splitOn ':' with
      | name :: _ :: _ :: _ :: _ :: home :: _ => some (name, home)
      | _ => none)
  catch _ => pure []

/-- What the program reads files with. -/
def readers : Readers where
  relaxed := some Relaxed.read

/-- A session in the current directory, with the variables that sessions look at. -/
def session : IO Session := do
  let here := place (← IO.currentDir).toString
  let home := ((← IO.getEnv "HOME").map place).getD here
  let environment ← ["CSS_VAR_INDEX_SETTINGS", "CSS_VAR_INDEX_TRACE"].filterMapM fun name => do
    pure ((← IO.getEnv name).map fun value => (name.toList, value.toList))
  let start := Session.start here ⟨CommandLine.program.toList, []⟩
  let s := { start with home, environment, readers, users := ← users }
  pure (Session.reloadTopics.run.run s).2

/-- Runs the program on its arguments. -/
def run (args : List Text) : IO UInt32 := do
  let s ← session
  let places :=
    match CommandLine.parse args with
    | .ok r => r.places s
    | .error _ => []
  let tree ← places.foldlM load s.tree
  match (CommandLine.run args { s with tree }).1 with
  | .help =>
    IO.print CommandLine.synopsis
    pure 0
  | .usage line =>
    IO.eprintln line
    pure 2
  | .finished status output errors =>
    IO.print output
    IO.eprint errors
    pure status.toUInt32

end SwatchIndex.Program

/-- The program. -/
def main (args : List String) : IO UInt32 := SwatchIndex.Program.run (args.map String.toList)
