import Reconciler.Document.Basic
import Reconciler.Text.Quoted

namespace Reconciler

/-!
# Field paths

A field path names a place inside a document by the keys and list positions on
the way to it.

* `Segment` — one step, into an object or into a list;
* `FieldPath` — the steps with the text they were written as; there is always at
  least one;
* `PathError` — why a text is no path, or why a place cannot be written to, and
  `PathError.message`.
-/

/-- One step of a path. -/
inductive Segment where
  | key (k : String)
  | index (i : Nat)
deriving DecidableEq, Repr

/-- A path of at least one step. -/
structure FieldPath where
  /-- The text as written, a leading point included. -/
  raw : String
  head : Segment
  rest : List Segment
deriving DecidableEq, Repr

/-- The steps from the root. -/
def FieldPath.segments (p : FieldPath) : List Segment :=
  p.head :: p.rest

/-- What is wrong with the text of a path. -/
inductive PathFault where
  | emptySegment
  | unbalancedBracket
  | expectedBracket
  | missingBracket
  | indexNotDigits
  | indexTooLarge
deriving DecidableEq, Repr

/-- The wording of a fault. -/
def PathFault.message : PathFault → String
  | emptySegment => "empty segment"
  | unbalancedBracket => "unbalanced ']'"
  | expectedBracket => "expected '['"
  | missingBracket => "missing ']'"
  | indexNotDigits => "array index must be digits"
  | indexTooLarge => "array index too large"

/-- Why a document has no writable place at a path. -/
inductive WriteFault where
  /-- The value that segment number `segment` steps into is no container of the
      expected kind. -/
  | mismatch (segment : Nat) (expected found : Document.Kind)
  /-- A list of `length` items has none at `index`. -/
  | outOfBounds (index length : Nat)
deriving DecidableEq, Repr

/-- Failures of reading a path and of writing at one. -/
inductive PathError where
  | empty
  | invalid (path : String) (fault : PathFault)
  | write (path : String) (fault : WriteFault)
deriving DecidableEq, Repr

/-- The wording of a failure; the path is quoted as it was written. -/
def PathError.message : PathError → String
  | empty => "empty field path"
  | invalid path fault => "invalid field path " ++ Text.quote path ++ ": " ++ fault.message
  | write path (.mismatch segment expected found) =>
    "field path " ++ Text.quote path ++ ": expected " ++ expected.word ++ " at segment " ++
      toString segment ++ ", found " ++ found.word
  | write path (.outOfBounds index length) =>
    "field path " ++ Text.quote path ++ ": index " ++ toString index ++
      " out of bounds (len " ++ toString length ++ ")"

end Reconciler
