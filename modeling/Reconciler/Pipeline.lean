namespace Reconciler

/-!
# Pipelines

Stages work one after the other on a state.  A stage lets the next one go on, stops
the pipeline, which is a normal end, or fails.

* `Flow` — what a stage decides;
* `Pipeline.run` — the stages in their order, up to the first that stops or fails.
-/

/-- What a stage decides. -/
inductive Flow where
  | proceed
  | stop
deriving DecidableEq, Repr

/-- A stage on states of type `σ`: the new state, and the decision or a failure. -/
abbrev Stage (σ ε : Type) := σ → σ × Except ε Flow

/-- Stages in their order. -/
structure Pipeline (σ ε : Type) where
  stages : List (Stage σ ε)

namespace Pipeline

variable {σ ε : Type}

/-- The pipeline without stages. -/
def empty : Pipeline σ ε := ⟨[]⟩

/-- One stage more, after the others. -/
def andThen (p : Pipeline σ ε) (stage : Stage σ ε) : Pipeline σ ε :=
  ⟨p.stages ++ [stage]⟩

/-- Runs stages up to the first that stops or fails. -/
def runStages : List (Stage σ ε) → σ → σ × Except ε Flow
  | [], s => (s, .ok .proceed)
  | stage :: rest, s =>
    match stage s with
    | (s, .ok .proceed) => runStages rest s
    | (s, decision) => (s, decision)

/-- Runs a pipeline: the last state, and how it ended. -/
def run (p : Pipeline σ ε) (s : σ) : σ × Except ε Flow :=
  runStages p.stages s

end Pipeline

end Reconciler
