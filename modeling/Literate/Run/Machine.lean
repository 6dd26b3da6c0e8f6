import Literate.Decimal.Double
import Literate.Settings.Basic

/-!
# Machines and waiting

A machine starts programs.  How long a program is waited for depends on the timeout and on whether it
may be cancelled: a program that may be is looked at ten times a second.

* `Machine` is what starts programs.
* `Patience.of` is how long a program is waited for.
-/

namespace Literate.Run

/-- A program to start: its command, the directory it starts in as written, and the time it is given,
in microseconds. -/
structure Launch where
  command : List Text
  directory : Option Text
  limit : Option Nat

/-- What comes of starting a program. -/
inductive Ending
  | notStarted (e : OsError)
  | finished (status : Int) (stdout stderr : Bytes)
  /-- Its time is over and it was stopped. -/
  | stopped

/-- What starts programs. -/
structure Machine where
  /-- The path of a program. -/
  findProgram : Text → Option Text
  /-- Starts a program among the files of a tree, which it may change. -/
  start : Surroundings → Launch → FileTree → FileTree × Ending

/-- Whether a run may be cancelled, and whether it is to be. -/
inductive Cancellation
  | impossible
  | possible
  | requested
  deriving DecidableEq, Repr

/-- How long a program is waited for. -/
inductive Patience
  /-- Not at all: the time is over when the program has started. -/
  | none
  | unlimited
  /-- Some microseconds. -/
  | limited (micros : Nat)
  /-- There is no waiting for that long. -/
  | impossible
  deriving DecidableEq, Repr

namespace Patience

/-- The microseconds between two looks at a program that may be cancelled.  Model of
`executor.POLL_INTERVAL`. -/
def lookInterval : Nat := 100000

/-- The longest time in milliseconds that can be waited for. -/
def longest : Nat := 2147483647

/-- The patience for a number of seconds and a program that nobody cancels. -/
def ofSeconds : Double → Patience
  | .nan => impossible
  | .infinite negative => if negative then none else impossible
  | .finite negative m q =>
    let (num, den) := Double.ratio m q
    if negative then none
    else if longest * den < 1000 * num then impossible
    else limited (1000000 * num / den)

/-- The patience for a timeout, of which zero is none.  Model of the waits in the loop of
`executor.Executor._spawn`. -/
def of (timeout : Option Double) (cancellation : Cancellation) : Patience :=
  let wait :=
    match timeout with
    | .none => unlimited
    | some x => if x.isZero then unlimited else ofSeconds x
  match cancellation with
  | .impossible => wait
  | .possible => if wait = impossible then unlimited else wait
  | .requested =>
    match wait with
    | none => none
    | limited n => limited (min n lookInterval)
    | _ => limited lookInterval

end Patience

end Literate.Run
