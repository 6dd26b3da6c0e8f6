import Literate.Action
import Literate.Digest.ParseCache
import Literate.Run.Machine
import Literate.Run.Reservation
import Literate.Run.Source

/-!
# Running a block

A block is run from a scratch file that holds its source and is removed afterwards, whatever became of
the run.  A status other than zero is a normal result.

* `Executor.execute` runs one block.
* `Executor.overlap` starts one run while another one is under way.
-/

namespace Literate.Run

open Text

/-- What runs blocks.  Model of `executor.Executor`. -/
structure Executor where
  machine : Machine
  settings : Settings
  registry : Registry
  around : Surroundings

/-- A run that is asked for. -/
structure Request where
  block : Text
  /-- The time it is given, if not that of the settings. -/
  timeout : Option Double
  cancellation : Cancellation
  directory : Option Text

/-- What a run is known by: the digest of the document and the name of the block. -/
abbrev Key := Text × Text

/-! ## Scratch files -/

/-- Whether a character may stand in the name of a scratch file. -/
def isSafe (c : Char) : Bool := c.isAlphanum || c = '_' || c = '.' || c = '-'

/-- The name of a block with an underscore for each run of characters that may not stand in the name
of a file; `inRun` says whether such a run is going on.  Model of the substitution with
`executor.SAFE_NAME_RE`. -/
def safeName (inRun : Bool) : Text → Text
  | [] => []
  | c :: r =>
    if isSafe c then c :: safeName false r
    else if inRun then safeName true r
    else '_' :: safeName true r

/-- The name of the scratch file of a block with a number that tells it from others. -/
def scratchName (block extension : Text) (number : Nat) : Text :=
  safeName false block ++ '_' :: numeral number ++
    if extension.isEmpty then [] else '.' :: extension

/-- The first of some numbers whose scratch file is not there yet. -/
def freshNumber (tree : FileTree) (dir : Location) (block extension : Text) : Nat → Nat → Nat
  | number, 0 => number
  | number, tries + 1 =>
    if (tree.node? (dir ++ [scratchName block extension number])).isSome then
      freshNumber tree dir block extension (number + 1) tries
    else number

/-- Makes the scratch directory and writes the scratch file: the tree that results, even on failure,
and the location of the file.  Model of `paths.prepare_workspace` and of the scratch file in
`executor.Executor._run`. -/
def writeScratch (x : Executor) (block extension source : Text) (tree : FileTree) :
    FileTree × Except Failure Location :=
  match x.settings.tempDir.expandUser x.around.homes with
  | .error e => (tree, .error (.path e))
  | .ok p =>
    let dir := p.resolve x.around.cwd
    match tree.makeDirs [] (.ofLocation dir) with
    | (tree, some e) => (tree, .error (.execution (.writeFailed e block)))
    | (tree, none) =>
      let number := freshNumber tree dir block extension 0 (tree.entries.length + 1)
      let file := dir ++ [scratchName block extension number]
      match tree.write [] (.ofLocation file) (Utf8.encode source) with
      | .error e => (tree, .error (.execution (.writeFailed e block)))
      | .ok tree => (tree, .ok file)

/-- The location of the program that a compiler makes of a scratch file. -/
def binaryOf (file : Location) : Location :=
  file.dropLast ++ [file.getLast?.getD [] ++ ".bin".toList]

/-! ## Running -/

namespace Executor

/-- Records that a run was stopped: because its time was over, or because it was cancelled. -/
def stopped (block : Text) (timeout : Option Double) (cancellation : Cancellation) (patience : Patience) :
    Action RunResult :=
  if cancellation = .requested && patience ≠ .none then do
    Action.log .info ("Block '" ++ block.toStr ++ "' cancelled")
    throw (.execution (.cancelled block))
  else do
    let seconds := timeout.getD .nan
    Action.log .warning
      ("Block '" ++ block.toStr ++ "' timed out after " ++ seconds.general.toStr ++ "s")
    throw (.execution (.timedOut seconds block))

/-- Starts a program and waits for it.  Model of `executor.Executor._spawn`. -/
def spawn (x : Executor) (block : Text) (command : List Text) (timeout : Option Double) (r : Request) :
    Action RunResult := do
  let patience := Patience.of timeout r.cancellation
  let limit :=
    match patience with
    | .unlimited => none
    | .limited n => some n
    | _ => some 0
  let (tree, ending) := x.machine.start x.around ⟨command, r.directory, limit⟩ (← Action.tree)
  Action.setTree tree
  match ending with
  | .notStarted e => throw (.execution (.spawnFailed (command.headD []) e block))
  | .finished status stdout stderr =>
    match patience with
    | .none => stopped block timeout r.cancellation patience
    | .impossible => throw (.timeoutNotWaitable (timeout.getD .nan))
    | _ => pure ⟨Utf8.decodeLossy stdout, Utf8.decodeLossy stderr, status⟩
  | .stopped =>
    if patience = .impossible then throw (.timeoutNotWaitable (timeout.getD .nan))
    else stopped block timeout r.cancellation patience

/-- Runs a block of a document.  Model of `executor.Executor._run`. -/
def runBlock (x : Executor) (o : Outline) (b : Block) (r : Request) : Action RunResult := do
  match x.registry.resolve x.machine.findProgram b.info.language with
  | none => throw (.execution (.unsupportedLanguage b.info.language b.name))
  | some language =>
    let source ← Action.ofExcept .execution (sourceOf o b language)
    let (tree, written) := writeScratch x b.name language.extension source (← Action.tree)
    Action.setTree tree
    let file ← Action.ofExcept id written
    let command := language.buildCommand (Location.toText file)
    let cleanUp : Action Unit :=
      modify fun w => { w with tree := (w.tree.erase file).erase (binaryOf file) }
    tryFinally (x.spawn b.name command (r.timeout.or x.settings.timeout) r) cleanUp

/-- The block that is to run, and the structure of its document. -/
def find (t name : Text) : Action (Outline × Block) := do
  let o ← Action.outline t
  match o.findBlock? name with
  | none => throw (.execution (.notFound name))
  | some b => pure (o, b)

/-- Runs a block of a document while some runs are under way.  Model of
`executor.Executor.execute`. -/
def executeDuring (x : Executor) (inFlight : InFlight Key) (t : Text) (r : Request) :
    Action RunResult := do
  let (o, b) ← find t r.block
  match inFlight.reserve? (documentHash t, r.block) with
  | none => throw (.execution (.busy r.block))
  | some _ => x.runBlock o b r

/-- Runs a block of a document.  Model of `executor.Executor.execute` when nothing else runs. -/
def execute (x : Executor) (t : Text) (r : Request) : Action RunResult :=
  x.executeDuring .empty t r

/-- What comes of a run that goes on while another one is asked for and is cancelled then. -/
structure Overlap where
  second : Except Failure RunResult
  held : Except Failure RunResult
  /-- How many runs are under way in the end. -/
  inFlight : Nat

/-- An answer or failure as an answer. -/
def attempt {α : Type} (a : Action α) : Action (Except Failure α) :=
  tryCatch (do return .ok (← a)) fun e => pure (.error e)

/-- Starts the run of `held`, asks for the run of `second` in another text, and cancels the first. -/
def overlap (x : Executor) (t held other second : Text) : Action Overlap := do
  let request (block : Text) (c : Cancellation) : Request := ⟨block, none, c, none⟩
  let key? ← attempt (do
    let _ ← find t held
    pure (documentHash t, held))
  let runs : Runs Key := Runs.start.step (.request 0 key?.toOption)
  let second' ← attempt (x.executeDuring runs.inFlight other (request second .impossible))
  let held' ← attempt (x.execute t (request held .requested))
  pure ⟨second', held', (runs.step (.finish 0)).inFlight.keys.length⟩

end Executor

end Literate.Run
