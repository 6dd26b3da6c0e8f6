import Literate.Run.Error

/-!
# Reservations

A block that is running is not started a second time.  Every run reserves its key before it starts
and releases it when it is over, whatever became of it; keys stand for a document and a block.

* `InFlight.reserve?` and `InFlight.release` are the two atomic steps of a run.
* `Runs.step` takes the steps of any number of callers in any order.
-/

namespace Literate.Run

/-- The keys of the runs that are under way.  Model of `_in_flight` of an `executor.Executor`. -/
structure InFlight (κ : Type) where
  keys : List κ
  deriving DecidableEq, Repr

namespace InFlight

variable {κ : Type} [DecidableEq κ]

/-- Nothing is under way. -/
def empty : InFlight κ := ⟨[]⟩

/-- Reserves a key; `none` if it is reserved already.  Model of the first locked section of
`executor.Executor.execute`. -/
def reserve? (s : InFlight κ) (k : κ) : Option (InFlight κ) :=
  if k ∈ s.keys then none else some ⟨k :: s.keys⟩

/-- Releases a key.  Model of the last locked section of `executor.Executor.execute`. -/
def release (s : InFlight κ) (k : κ) : InFlight κ := ⟨s.keys.filter (· ≠ k)⟩

end InFlight

/-- What a caller of an executor does. -/
inductive Step (κ : Type)
  /-- It asks for a run.  A request for a block that is not there, or in a document that cannot be
  read, has no key. -/
  | request (caller : Nat) (key : Option κ)
  /-- Its run is over: there is a result, or the run was stopped or failed. -/
  | finish (caller : Nat)

/-- What a request is told. -/
inductive Verdict
  | accepted
  | busy
  | refused
  deriving DecidableEq, Repr

/-- An executor and its callers. -/
structure Runs (κ : Type) where
  inFlight : InFlight κ
  /-- The runs that were accepted and not released yet, by caller. -/
  active : List (Nat × κ)

namespace Runs

variable {κ : Type} [DecidableEq κ]

/-- Nobody has asked for anything. -/
def start : Runs κ := ⟨.empty, []⟩

/-- A request, and what it is told. -/
def request (s : Runs κ) (caller : Nat) : Option κ → Runs κ × Verdict
  | none => (s, .refused)
  | some k =>
    match s.inFlight.reserve? k with
    | none => (s, .busy)
    | some inFlight => (⟨inFlight, (caller, k) :: s.active⟩, .accepted)

/-- The end of a caller's run. -/
def finish (s : Runs κ) (caller : Nat) : Runs κ :=
  match s.active.lookup caller with
  | none => s
  | some k => ⟨s.inFlight.release k, s.active.erase (caller, k)⟩

/-- One step of one caller. -/
def step (s : Runs κ) : Step κ → Runs κ
  | .request caller key => (s.request caller key).1
  | .finish caller => s.finish caller

/-- Steps one after the other. -/
def run (s : Runs κ) (steps : List (Step κ)) : Runs κ := steps.foldl step s

end Runs

end Literate.Run
