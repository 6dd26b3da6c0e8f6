import Literate.Outline.Scan

/-!
# Recorded output

Output is recorded in a fenced region whose fence is longer than any run of backticks that starts a
line of it, so nothing in the output can close the region.
-/

namespace Literate

open Text

/-- What a finished run left: both streams and the exit status, negative when a signal ended it.
Model of `models.ExecutionResult`. -/
structure RunResult where
  stdout : Text
  stderr : Text
  status : Int
  deriving DecidableEq, Repr

/-- What can be recorded. -/
inductive Output
  | text (t : Text)
  | result (r : RunResult)
  deriving DecidableEq, Repr

namespace Output

/-- Drops the newlines at the end. -/
def dropNewlines (t : Text) : Text := dropEndWhile (· == '\n') t

/-- The text inside the fence.  Model of `splicer.output_payload`. -/
def payload : Output → Text
  | text t => dropNewlines t
  | result r =>
    "Output:\n".toList ++ dropNewlines r.stdout ++ "\n\nStderr:\n".toList ++ dropNewlines r.stderr
      ++ "\n\nExit code: ".toList ++ signedNumeral r.status

/-- Number of backticks at the front of a line after its blanks.  Model of
`splicer.BACKTICK_RUN_RE`. -/
def leadingTicks (l : Line) : Nat := ((trimStart l).takeWhile (· == '\x60')).length

/-- The longest run of backticks that starts a line. -/
def longestTicks (payload : Text) : Nat :=
  ((pieces '\n' payload).map leadingTicks).foldr Nat.max 0

/-- A backtick fence longer than any that starts a line of the payload.  Model of
`splicer.fence_for`. -/
def fenceFor (payload : Text) : Text := List.replicate (Nat.max 3 (longestTicks payload + 1)) '\x60'

/-- The region that records the output.  Model of `splicer.output_region`. -/
def region (o : Output) : Text :=
  let fence := fenceFor o.payload
  fence ++ "output\n".toList ++ o.payload ++ ['\n'] ++ fence ++ ['\n']

end Output

end Literate
