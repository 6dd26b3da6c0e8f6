import Literate.CommandLine.Dispatch
import Literate.Page.Theme
import Literate.Shell.Machine

/-!
# The program

Reads the working directory, starts the command line in it, and writes what came of it: standard
output and error, and the files that changed.
-/

namespace Literate.Program

open Text

/-- How deep directories are read. -/
def depthLimit : Nat := 32

/-- Adds an entry of a directory to a tree. -/
def load (l : Location) : Nat → FileTree → IO.FS.DirEntry → IO FileTree
  | 0, tree, _ => pure tree
  | depth + 1, tree, e => do
    let l := l ++ [e.fileName.toList]
    if ← e.path.isDir then
      (← e.path.readDir).foldlM (load l depth) (tree.set l .directory)
    else
      return tree.set l (.file (← IO.FS.readBinFile e.path).toList)

/-- Adds the directories above a location to a tree. -/
def withParents (l : Location) (tree : FileTree) : FileTree :=
  (List.range (l.length + 1)).foldl (fun tree n =>
    if n = 0 then tree else tree.set (l.take n) .directory) tree

/-- The tree of the working directory. -/
def loadTree (cwd : Location) : IO FileTree := do
  (← (← IO.currentDir).readDir).foldlM (load cwd depthLimit) (withParents cwd .empty)

/-- Adds the configuration file to a tree, if it is there and lies elsewhere. -/
def loadConfiguration (around : Surroundings) (tree : FileTree) : IO FileTree := do
  match Settings.configDirOf around with
  | .error _ => return tree
  | .ok p =>
    let l := (p.append (FilePath.ofText "config.toml".toList)).resolve around.cwd
    if (tree.node? l).isSome then return tree
    try
      let content ← IO.FS.readBinFile (Location.toText l).toStr
      return (withParents l.dropLast tree).set l (.file content.toList)
    catch _ => return tree

/-- The variables that matter. -/
def variableNames : List String := ["LITDOC_CONFIG_DIR", "LITDOC_TEMP_DIR", "LITDOC_TIMEOUT", "HOME", "PATH"]

/-- The working directory and the environment. -/
def surroundings : IO Surroundings := do
  let cwd := (FilePath.ofText (← IO.currentDir).toString.toList).parts
  let values ← variableNames.mapM fun name => return (← IO.getEnv name).map fun v => (name.toList, v.toList)
  let environment := values.filterMap id
  return ⟨cwd, environment, [([], (environment.lookup "HOME".toList).getD [])]⟩

/-- The sheets of pages; code is shown without colours. -/
def sheets : SheetSource := ⟨Theme.css, fun name => (Theme.checkCode name).map fun _ => []⟩

/-- What the program works with; there is no browser. -/
def workbench (around : Surroundings) : CommandLine.Workbench :=
  { machine := Shell.machine, browser := .failsToStart ⟨.system, "OSError", "no browser".toList⟩, sheets
    languages := .ofList (Language.builtin "python3"), around }

/-- Writes an entry of a tree to its place. -/
def store (entry : Location × Node) : IO Unit :=
  let path := (Location.toText entry.1).toStr
  match entry.2 with
  | .directory => IO.FS.createDirAll path
  | .file content => IO.FS.writeBinFile path ⟨content.toArray⟩

/-- Writes what is new in a tree, and removes what is gone. -/
def storeTree (old new : FileTree) : IO Unit := do
  for e in new.entries do
    if old.node? e.1 ≠ some e.2 then store e
  for e in old.entries do
    if (new.node? e.1).isNone && e.2 ≠ .directory then IO.FS.removeFile (Location.toText e.1).toStr

/-- Starts the command line and gives the exit status. -/
def run (arguments : List String) : IO UInt32 := do
  let around ← surroundings
  let tree ← loadConfiguration around (← loadTree around.cwd)
  let (outcome, w) := CommandLine.start (workbench around) (arguments.map String.toList) (.ofTree tree)
  storeTree tree w.tree
  IO.print w.out.toStr
  for r in w.log do IO.eprintln (r.level.label ++ "  " ++ r.message)
  IO.eprint w.err.toStr
  match outcome with
  | .exited status => return status.toUInt32
  | .refused r => return r.status.toUInt32
  | .failed e => do
    IO.eprintln e.message
    return 1

end Literate.Program

/-- Starts the program. -/
def main (arguments : List String) : IO UInt32 := Literate.Program.run arguments
