import Literate.Shell.Utility.Lines

/-!
# Utilities on files

Utilities that list and change the file tree.
-/

namespace Literate.Shell

open Text

namespace Utility

/-- Failures of a file operation on several files. -/
def onEach (c : Call) (names : List Octets)
    (f : FileTree → Octets → FileTree × Octets) : Outcome :=
  let (tree, err) := names.foldl (fun (tree, err) name =>
    let (tree, message) := f tree name
    (tree, err ++ message)) (c.tree, [])
  ⟨[], err, if err.isEmpty then 0 else 1, tree, 0⟩

/-- The location a name stands for. -/
def locationOf (c : Call) (name : Octets) : Location := (pathOf name).resolve c.cwd

/-- A message about a file. -/
def about (start : String) (name : Octets) (cause : String) : Octets :=
  say (start ++ " '") ++ name ++ say ("': " ++ cause ++ "\n")

/-- Makes directories. -/
def mkdir (c : Call) : Outcome :=
  let (flags, names) := flagsOf c.args
  onEach c names fun tree name =>
    if flags.contains 'p' then
      match tree.makeDirs c.cwd (pathOf name) with
      | (tree, none) => (tree, [])
      | (tree, some e) => (tree, about "mkdir: cannot create directory" name e.cause.text)
    else
      match tree.makeDir c.cwd (pathOf name) with
      | .ok tree => (tree, [])
      | .error e => (tree, about "mkdir: cannot create directory" name e.cause.text)

/-- Makes empty files. -/
def touch (c : Call) : Outcome :=
  let (_, names) := flagsOf c.args
  onEach c names fun tree name =>
    match tree.stat c.cwd (pathOf name) with
    | .ok _ => (tree, [])
    | .error _ =>
      match tree.write c.cwd (pathOf name) [] with
      | .ok tree => (tree, [])
      | .error e => (tree, about "touch: cannot touch" name e.cause.text)

/-- Takes a location with everything below it away. -/
def without (tree : FileTree) (l : Location) : FileTree :=
  ⟨tree.entries.filter fun e => !Location.isWithin l e.1⟩

/-- Removes files, and directories if asked to. -/
def rm (c : Call) : Outcome :=
  let (flags, names) := flagsOf c.args
  let deep := flags.contains 'r' || flags.contains 'R'
  onEach c names fun tree name =>
    match tree.stat c.cwd (pathOf name) with
    | .ok .directory =>
      if deep then (without tree (locationOf c name), [])
      else (tree, about "rm: cannot remove" name "Is a directory")
    | .ok (.file _) => (without tree (locationOf c name), [])
    | .error cause =>
      if flags.contains 'f' then (tree, []) else (tree, about "rm: cannot remove" name cause.text)

/-- Removes empty directories. -/
def rmdir (c : Call) : Outcome :=
  let (_, names) := flagsOf c.args
  onEach c names fun tree name =>
    match tree.stat c.cwd (pathOf name) with
    | .ok .directory =>
      if (tree.below (locationOf c name)).isEmpty then (without tree (locationOf c name), [])
      else (tree, about "rmdir: failed to remove" name "Directory not empty")
    | .ok (.file _) => (tree, about "rmdir: failed to remove" name "Not a directory")
    | .error cause => (tree, about "rmdir: failed to remove" name cause.text)

/-- Puts everything at and below a location at another one as well. -/
def copied (tree : FileTree) (source target : Location) : FileTree :=
  (tree.entries.filter fun e => Location.isWithin source e.1).foldl
    (fun tree e => tree.set (target ++ e.1.drop source.length) e.2) tree

/-- Copies or moves files to a target, which may be a directory. -/
def transfer (program : String) (moves : Bool) (c : Call) : Outcome :=
  let (flags, names) := flagsOf c.args
  let target := names.getLast?.getD []
  let into := c.tree.isDirectory c.cwd (pathOf target)
  let deep := moves || flags.contains 'r' || flags.contains 'R' || flags.contains 'a'
  onEach c names.dropLast fun tree name =>
    let source := locationOf c name
    let place := locationOf c target ++ if into then [source.getLast?.getD []] else []
    match tree.stat c.cwd (pathOf name) with
    | .error cause => (tree, about (program ++ ": cannot stat") name cause.text)
    | .ok node =>
      if node = .directory && !deep then
        (tree, say (program ++ ": -r not specified; omitting directory '") ++ name ++ say "'\n")
      else if tree.node? place.dropLast ≠ some .directory then
        (tree, about (program ++ ": cannot create regular file") target "No such file or directory")
      else
        let tree := copied tree source place
        (if moves && source ≠ place then without tree source else tree, [])

/-- Lists a directory. -/
def ls (c : Call) : Outcome :=
  let (flags, names) := flagsOf c.args
  let sorted (ns : List Octets) : List Octets := ns.mergeSort precedes
  let shown (ns : List Octets) : List Octets :=
    ns.filter fun n => flags.contains 'a' || flags.contains 'A' || n.head? ≠ some '.'
  let listing (l : Location) : Octets :=
    ofLines (sorted (shown ((c.tree.names l).map octetsOfText)))
  let names' := if names.isEmpty then [['.']] else sorted names
  let many := 1 < names'.length
  let entries := names'.map fun n => (n, c.tree.stat c.cwd (pathOf n))
  let missing := entries.flatMap fun (n, s) =>
    match s with
    | .error cause => about "ls: cannot access" n cause.text
    | _ => []
  let files := entries.flatMap fun (n, s) =>
    match s with
    | .ok (.file _) => n ++ ['\n']
    | .ok .directory => if flags.contains 'd' then n ++ ['\n'] else []
    | _ => []
  let dirs := entries.filterMap fun (n, s) =>
    match s with
    | .ok .directory =>
      if flags.contains 'd' then none
      else some ((if many then n ++ [':', '\n'] else []) ++ listing (locationOf c n))
    | _ => none
  let gap := if !files.isEmpty && !dirs.isEmpty then ['\n'] else []
  ⟨files ++ gap ++ join ['\n'] dirs, missing, if missing.isEmpty then 0 else 2, c.tree, 0⟩

/-- Writes standard input to files as well. -/
def tee (c : Call) : Outcome :=
  let (flags, names) := flagsOf c.args
  let o := onEach c names fun tree name =>
    let old := if flags.contains 'a' then
        match tree.read c.cwd (pathOf name) with
        | .ok b => b
        | .error _ => []
      else []
    match tree.write c.cwd (pathOf name) (old ++ bytesOf c.input) with
    | .ok tree => (tree, [])
    | .error e => (tree, say "tee: " ++ name ++ say (": " ++ e.cause.text ++ "\n"))
  { o with out := c.input }

end Utility

end Literate.Shell
