import Reconciler.Task.Result

namespace Reconciler

/-!
# The status of a run

* `RunPhase`, `Completion` — how the run ended, and how many of its tasks did;
* `RunStatus` — the whole, and its written form.
-/

/-- How a run ended. -/
inductive RunPhase where
  | online
  | skipped
  | error
deriving DecidableEq, Repr

/-- The name of a phase. -/
def RunPhase.name : RunPhase → String
  | online => "Online"
  | skipped => "Skipped"
  | error => "Error"

/-- How many tasks ended without an error, of how many. -/
structure Completion where
  /-- All of them did. -/
  state : Bool
  observed : Nat
  desired : Nat
deriving DecidableEq, Repr

/-- The completion of nothing. -/
def Completion.zero : Completion := ⟨false, 0, 0⟩

/-- The status of a run. -/
structure RunStatus where
  phase : RunPhase
  reason : Option String
  message : Option String
  completion : Completion
  taskResults : List TaskResult
  errors : List String
deriving DecidableEq

/-- The result of the task with this key. -/
def RunStatus.task? (s : RunStatus) (key : String) : Option TaskResult :=
  s.taskResults.find? (·.key == key)

/-! ### Wire form -/

open Wire

/-- Writes a completion. -/
def Completion.encode (c : Completion) : Document :=
  ofParts [("desired", some (.nat c.desired)), ("observed", some (.nat c.observed)),
    ("state", some (.bool c.state))]

/-- Writes a status. -/
def RunStatus.encode (s : RunStatus) : Document :=
  ofParts [("completion", some s.completion.encode), ("errors", encodeTexts s.errors),
    ("message", s.message.map .str), ("phase", some (.str s.phase.name)),
    ("reason", s.reason.map .str),
    ("taskResults", some (.arr (s.taskResults.map TaskResult.encode)))]

end Reconciler
