import Literate.Failure
import Literate.Log
import Literate.Pdf.Browser

/-!
# Actions

An action answers or fails, and either way may have changed the world: files, log records, what was
written to standard output and standard error, and what a browser was asked for.

* `Action.perform` is what an action comes to in a world.
* `Action.ofExcept` makes a pure answer or failure an action.
-/

namespace Literate

/-- What actions may change. -/
structure World where
  tree : FileTree
  log : List LogRecord
  out : Text
  err : Text
  /-- What the last browser was asked for. -/
  visit : Visit

/-- The world around a file tree in which nothing was said yet. -/
def World.ofTree (tree : FileTree) : World := ⟨tree, [], [], [], .none⟩

/-- Something that may change the world and may fail. -/
abbrev Action := ExceptT Failure (StateM World)

namespace Action

/-- A pure answer or failure. -/
def ofExcept {ε α : Type} (f : ε → Failure) : Except ε α → Action α
  | .ok a => pure a
  | .error e => throw (f e)

/-- Appends records to the log. -/
def record (records : List LogRecord) : Action Unit :=
  modify fun w => { w with log := w.log ++ records }

/-- Appends one record to the log. -/
def log (level : Level) (message : String) : Action Unit := record [⟨level, message⟩]

/-- The file tree as it is. -/
def tree : Action FileTree := do return (← get).tree

/-- Puts another file tree in place. -/
def setTree (tree : FileTree) : Action Unit := modify fun w => { w with tree }

/-- Writes to standard output. -/
def print (t : Text) : Action Unit := modify fun w => { w with out := w.out ++ t }

/-- Writes to standard error. -/
def printError (t : Text) : Action Unit := modify fun w => { w with err := w.err ++ t }

/-- Does a file operation that may change the tree even when it fails. -/
def change (f : OsError → Failure) (g : FileTree → FileTree × Option OsError) : Action Unit := do
  let (tree, failure) := g (← tree)
  setTree tree
  match failure with
  | none => pure ()
  | some e => throw (f e)

/-- Does a file operation that changes nothing when it fails. -/
def update (f : OsError → Failure) (g : FileTree → Except OsError FileTree) : Action Unit := do
  setTree (← ofExcept f (g (← tree)))

/-- What an action comes to in a world. -/
def perform {α : Type} (a : Action α) (w : World) : Except Failure α × World := (ExceptT.run a).run w

/-- The structure of a document; names that are used more than once are reported. -/
def outline (t : Text) : Action Outline := do
  let o ← ofExcept .parse (Outline.parse t)
  record o.warnings
  pure o

end Action

end Literate
