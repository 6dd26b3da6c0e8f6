import Literate.Run.Machine
import Literate.Shell.Run

/-!
# The shell as a machine

A machine that runs shell scripts and utilities among the files of a tree.  Nothing is left to the
system: a run is a function of the command, the surroundings and the tree.

* `Shell.machine` is the machine.
-/

namespace Literate.Shell

open Text

/-- Programs that are built into shells and stand on their own as well. -/
def ownPrograms : List String := ["echo", "printf", "test", "[", "pwd", "kill", "env", "xargs"]

/-- The names of all programs. -/
def programs : List String := shells ++ Utility.names ++ ownPrograms

/-- The path of a program. -/
def findProgram (name : Text) : Option Text :=
  if programs.any (·.toList == name) then some ("/usr/bin/".toList ++ name) else none

/-- Where a program starts. -/
def startDirectory (around : Surroundings) (tree : FileTree) : Option Text → Except OsError Location
  | none => .ok around.cwd
  | some t =>
    if t.isEmpty then .error ⟨.notFound, t⟩
    else
      match tree.stat around.cwd (FilePath.ofText t) with
      | .ok .directory => .ok ((FilePath.ofText t).resolve around.cwd)
      | .ok (.file _) => .error ⟨.notDirectory, t⟩
      | .error cause => .error ⟨cause, t⟩

/-- The session that a program starts in. -/
def Session.initial (around : Surroundings) (cwd : Location) (tree : FileTree) (limit : Option Nat) :
    Session :=
  let environment := around.environment.map fun (k, v) => (octetsOfText k, octetsOfText v)
  let environment := environment.filter fun e => e.1 ≠ "PWD".toList
  let environment := ("PWD".toList, octetsOfText (Location.toText cwd)) :: environment
  { tree, cwd, bindings := environment, exported := environment.map Prod.fst, name := "sh".toList
    args := [], functions := [], locals := [], status := 0, options := [], traps := [], shielded := false
    plainEcho := true, clock := 0, limit, backgroundEnd := 0, backgroundStatus := 0
    descriptors := [(0, .nothing), (1, .out), (2, .err)], events := [], sources := [], fresh := 0
    depth := 0 }

/-- Starts a program. -/
def start (around : Surroundings) (launch : Run.Launch) (tree : FileTree) : FileTree × Run.Ending :=
  match startDirectory around tree launch.directory with
  | .error e => (tree, .notStarted e)
  | .ok cwd =>
    let name := launch.command.headD []
    let program := programName name
    if !programs.any (·.toList == program) then (tree, .notStarted ⟨.notFound, name⟩)
    else
      let s := Session.initial around cwd tree launch.limit
      let args := (launch.command.drop 1).map octetsOfText
      let (flow, s) :=
        if shells.any (·.toList == program) then runShell stepLimit s program args
        else runWords stepLimit s program args
      let ends := max s.clock s.backgroundEnd
      if flow = .over || ((launch.limit.map fun n => decide (n ≤ ends)).getD false) then (s.tree, .stopped)
      else
        let status : Int := match flow with
          | .killed n => -(n : Int)
          | _ => s.status
        (s.tree, .finished status (bytesOf (s.written .out)) (bytesOf (s.written .err)))

/-- The machine that runs shell scripts and utilities. -/
def machine : Run.Machine := ⟨findProgram, start⟩

end Literate.Shell
