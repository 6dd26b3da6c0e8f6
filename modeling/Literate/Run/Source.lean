import Literate.Language.Registry
import Literate.Run.Error

/-!
# The source of a run

What is written to the scratch file of a block: its expanded body and the expanded sources of its
imports, put together as its language wants them.
-/

namespace Literate.Run

open Text

/-- The body and the imports of a block, expanded with one memo. -/
def expandParts (o : Outline) (b : Block) : Expander (Text × Text) := do
  let body ← Expander.block o b
  let imports ← Expander.imports o b.info.imports
  pure (body, imports)

/-- The source of a block in its language.  Model of `executor.Executor._source_for`. -/
def sourceOf (o : Outline) (b : Block) (l : Language) : Except ExecutionError Text :=
  match (expandParts o b).eval with
  | .error e => .error (.expansionFailed (.expansion e) b.name)
  | .ok (body, imports) =>
    match l.assemble body imports b.info.args with
    | .error e => .error (.expansionFailed (.configuration e) b.name)
    | .ok source => .ok source

end Literate.Run
