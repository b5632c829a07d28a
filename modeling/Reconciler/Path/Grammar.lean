import Reconciler.Path.Basic

namespace Reconciler.FieldPath

/-!
# The text of a path

A path is written as pieces between points.  A piece is a key, followed by list
positions in brackets, or such positions alone; one leading point is dropped.  So
`spec.ports[0].name` and `.spec.ports.[0].name` take the same steps.

* `readIndices` — the bracketed positions of a piece;
* `readPiece` — the steps of one piece;
* `parse` — a whole path.
-/

/-- A list position: decimal digits, leading zeros allowed, of a number below
    `2 ^ 64`. -/
def readIndex (digits : List Char) : Except PathFault Nat :=
  if digits.isEmpty || !digits.all Char.isDigit then .error .indexNotDigits
  else if Nat.ofDigitChars 10 digits 0 < 0x10000000000000000 then .ok (Nat.ofDigitChars 10 digits 0)
  else .error .indexTooLarge

/-- The text after an opening bracket, cut at the closing one. -/
def cutBracket (body : List Char) : Option (List Char × List Char) :=
  match body.dropWhile (· != ']') with
  | [] => none
  | _ :: rest => some (body.takeWhile (· != ']'), rest)

/-- Cutting off a bracket leaves less to read, so that reading ends. -/
theorem length_lt_of_cutBracket {body digits rest : List Char}
    (h : cutBracket body = some (digits, rest)) : rest.length < body.length := by
  unfold cutBracket at h
  split at h
  · simp at h
  · next hd =>
    simp only [Option.some.injEq, Prod.mk.injEq] at h
    have := (List.dropWhile_suffix (l := body) (· != ']')).length_le
    rw [hd, List.length_cons, h.2] at this
    omega

/-- Positions in brackets, up to the end of the piece. -/
def readIndices : List Char → Except PathFault (List Segment)
  | [] => .ok []
  | '[' :: body =>
    match h : cutBracket body with
    | none => .error .missingBracket
    | some (digits, rest) =>
      have : rest.length < body.length := length_lt_of_cutBracket h
      return .index (← readIndex digits) :: (← readIndices rest)
  | _ => .error .expectedBracket
termination_by cs => cs.length
decreasing_by
  simp only [List.length_cons]
  omega

/-- The steps of the text between two points: a key up to the first bracket, and
    the positions after it. -/
def readPiece (piece : List Char) : Except PathFault (List Segment) :=
  let key := piece.takeWhile (· != '[')
  if piece.isEmpty then .error .emptySegment
  else if key.contains ']' then .error .unbalancedBracket
  else do
    let indices ← readIndices (piece.dropWhile (· != '['))
    return if key.isEmpty then indices else .key (String.ofList key) :: indices

/-- The text without one leading point. -/
def dropPoint : List Char → List Char
  | '.' :: rest => rest
  | cs => cs

/-- Reads a path.  A piece without fault has at least one step, so the last case
    is the text without any piece. -/
def parse (raw : String) : Except PathError FieldPath :=
  let cs := dropPoint raw.toList
  if cs.isEmpty then .error .empty
  else
    match (cs.splitOn '.').mapM readPiece with
    | .error fault => .error (.invalid raw fault)
    | .ok pieces =>
      match pieces.flatten with
      | head :: rest => .ok { raw, head, rest }
      | [] => .error .empty

end Reconciler.FieldPath
