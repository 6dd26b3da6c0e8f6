import Literate.Shell.Utility.Files
import Literate.Shell.Utility.Numbers
import Literate.Shell.Utility.Stream

/-!
# Utilities

The programs that scripts use most.

* `Utility.run?` runs a utility by its name.
-/

namespace Literate.Shell

open Text

namespace Utility

/-- How often `yes` says what it says. -/
def yesCount : Nat := 4096

/-- The names of the utilities. -/
def names : List String :=
  ["cat", "wc", "head", "tail", "sort", "uniq", "tr", "cut", "grep", "sed", "mkdir", "touch", "rm",
   "rmdir", "cp", "mv", "ls", "tee", "basename", "dirname", "seq", "sleep", "printenv", "expr", "rev",
   "tac", "yes", "true", "false"]

/-- Runs a utility. -/
def run? (name : Octets) (c : Call) : Option Outcome :=
  match name.toStr with
  | "cat" => some (filtered c "cat" (flagsOf c.args).2 id)
  | "wc" => some (wc c)
  | "head" => some (ends "head" true c)
  | "tail" => some (ends "tail" false c)
  | "sort" => some (sort c)
  | "uniq" => some (uniq c)
  | "tr" => some (tr c)
  | "cut" => some (cutParts c)
  | "grep" => some (grep c)
  | "sed" => some (sed c)
  | "mkdir" => some (mkdir c)
  | "touch" => some (touch c)
  | "rm" => some (rm c)
  | "rmdir" => some (rmdir c)
  | "cp" => some (transfer "cp" false c)
  | "mv" => some (transfer "mv" true c)
  | "ls" => some (ls c)
  | "tee" => some (tee c)
  | "basename" => some (basename c)
  | "dirname" => some (dirname c)
  | "seq" => some (seq c)
  | "sleep" => some (sleep c)
  | "printenv" => some (printenv c)
  | "expr" => some (expr c)
  | "rev" => some (filtered c "rev" c.args fun t => ofLines ((linesOf t).map List.reverse))
  | "tac" => some (filtered c "tac" c.args fun t => (withEnds t).reverse.flatten)
  | "yes" =>
    let word := if c.args.isEmpty then ['y'] else join [' '] c.args
    some (done c (List.replicate yesCount (word ++ ['\n'])).flatten)
  | "true" => some (done c [])
  | "false" => some ⟨[], [], 1, c.tree, 0⟩
  | _ => none

end Utility

end Literate.Shell
