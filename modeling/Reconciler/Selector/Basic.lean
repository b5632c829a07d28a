import Reconciler.Path.Grammar
import Reconciler.Resource.Access

namespace Reconciler

/-!
# Selectors

A selector picks resources.  It holds alternatives, and each alternative, a term,
asks for values of fields, labels and annotations all at once.

* `SelectorTerm`, `Selector` — as they are written;
* `SelectError` — why a selector, or a condition over it, has no answer;
* `CompiledTerm`, `CompiledSelector` — with their field paths read;
* `Selector.compile`, `CompiledSelector.accepts` — the two steps of a match.
-/

/-- Values that a resource must have, compared as texts. -/
structure SelectorTerm where
  /-- By field path. -/
  fields : Table String String
  /-- By label. -/
  labels : Table String String
  /-- By annotation. -/
  annotations : Table String String
deriving DecidableEq

/-- Alternatives, one of which must hold. -/
structure Selector where
  terms : List SelectorTerm
deriving DecidableEq

namespace SelectorTerm

/-- The term that asks for nothing. -/
def empty : SelectorTerm := ⟨Table.empty, Table.empty, Table.empty⟩

instance : Inhabited SelectorTerm := ⟨empty⟩

/-- Asks for the value of a field, too. -/
def withField (t : SelectorTerm) (path expected : String) : SelectorTerm :=
  { t with fields := t.fields.insert path expected }

/-- Asks for the value of a label, too. -/
def withLabel (t : SelectorTerm) (key expected : String) : SelectorTerm :=
  { t with labels := t.labels.insert key expected }

/-- Asks for the value of an annotation, too. -/
def withAnnotation (t : SelectorTerm) (key expected : String) : SelectorTerm :=
  { t with annotations := t.annotations.insert key expected }

end SelectorTerm

/-- The selector of every resource of a kind. -/
def Selector.ofKind (kind : String) : Selector :=
  ⟨[SelectorTerm.empty.withField "kind" kind]⟩

/-! ### Operators and failures -/

/-- What a condition asks of the number of selected resources. -/
inductive CountOperator where
  | exist
  | notExist
  | equalsCount
  | atLeast
  | atMost
deriving DecidableEq, Repr

namespace CountOperator

/-- The operators with their names. -/
def names : List (String × CountOperator) :=
  [("Exists", exist), ("NotExist", notExist), ("EqualsCount", equalsCount),
    ("GTE", atLeast), ("LTE", atMost)]

/-- The name of an operator. -/
def name : CountOperator → String
  | exist => "Exists"
  | notExist => "NotExist"
  | equalsCount => "EqualsCount"
  | atLeast => "GTE"
  | atMost => "LTE"

/-- The operator compares with a count. -/
def needsCount : CountOperator → Bool
  | equalsCount | atLeast | atMost => true
  | exist | notExist => false

end CountOperator

/-- Why a selector or a condition has no answer. -/
inductive SelectError where
  | emptySelector
  | missingCount (operator : CountOperator)
  | negativeCount (n : Int64)
  | noCandidates (conditions : Nat)
  | field (path : String) (error : PathError)
deriving DecidableEq

namespace SelectError

/-- The wording of a cause. -/
def message : SelectError → String
  | emptySelector => "resource selector has no selector terms"
  | missingCount operator => "operator " ++ operator.name ++ " requires a count"
  | negativeCount n =>
    "count must not be negative, got " ++ String.ofList (Number.intText n.toInt)
  | noCandidates n =>
    "no resources to evaluate " ++ toString n ++ " condition(s) against"
  | field path error => "selector field " ++ Text.quote path ++ ": " ++ error.message

/-- The wording together with the cause behind it, outermost first. -/
def causes : SelectError → List String
  | e@(field _ error) => [e.message, error.message]
  | e => [e.message]

end SelectError

/-! ### Matching -/

/-- A term with its field paths read. -/
structure CompiledTerm where
  fields : List (FieldPath × String)
  labels : Table String String
  annotations : Table String String
deriving DecidableEq

/-- A selector with its field paths read. -/
structure CompiledSelector where
  terms : List CompiledTerm
deriving DecidableEq

/-- Reads the field paths of a term. -/
def SelectorTerm.compile (t : SelectorTerm) : Except SelectError CompiledTerm := do
  let fields ← t.fields.entries.mapM fun (path, expected) =>
    match FieldPath.parse path with
    | .ok p => .ok (p, expected)
    | .error e => .error (.field path e)
  return ⟨fields, t.labels, t.annotations⟩

/-- Reads the field paths of every term, of which there must be one. -/
def Selector.compile (s : Selector) : Except SelectError CompiledSelector :=
  if s.terms.isEmpty then .error .emptySelector
  else do return ⟨← s.terms.mapM SelectorTerm.compile⟩

/-- The resource has every value that the term asks for. -/
def CompiledTerm.accepts (t : CompiledTerm) (r : Resource) : Bool :=
  (t.labels.entries.all fun (key, expected) => r.label? key == some expected) &&
    (t.annotations.entries.all fun (key, expected) => r.annotation? key == some expected) &&
    t.fields.all fun (p, expected) => (r.getPath? p).bind Document.scalarText? == some expected

/-- The resource satisfies one of the terms. -/
def CompiledSelector.accepts (s : CompiledSelector) (r : Resource) : Bool :=
  s.terms.any (·.accepts r)

/-- Whether a resource satisfies a term. -/
def SelectorTerm.matches (t : SelectorTerm) (r : Resource) : Except SelectError Bool := do
  return (← t.compile).accepts r

/-- Whether a resource satisfies a selector. -/
def Selector.matches (s : Selector) (r : Resource) : Except SelectError Bool := do
  return (← s.compile).accepts r

/-! ### Wire form -/

open Wire

/-- The table, unless it is empty. -/
def encodeUnlessEmpty (t : Table String String) : Option Document :=
  if t.entries.isEmpty then none else some (ofTable t)

/-- Reads a term. -/
def SelectorTerm.decode : Decoder SelectorTerm :=
  record "SelectorTerm" <|
    SelectorTerm.mk <$> withDefault "matchFields" stringTable Table.empty
      <*> withDefault "matchLabels" stringTable Table.empty
      <*> withDefault "matchAnnotations" stringTable Table.empty

/-- Writes a term without its empty tables. -/
def SelectorTerm.encode (t : SelectorTerm) : Document :=
  ofParts [("matchAnnotations", encodeUnlessEmpty t.annotations),
    ("matchFields", encodeUnlessEmpty t.fields),
    ("matchLabels", encodeUnlessEmpty t.labels)]

/-- Reads a selector. -/
def Selector.decode : Decoder Selector :=
  record "ResourceSelector" <|
    Selector.mk <$> withDefault "selectorTerms" (list SelectorTerm.decode) []

/-- Writes a selector. -/
def Selector.encode (s : Selector) : Document :=
  ofParts [("selectorTerms", some (.arr (s.terms.map SelectorTerm.encode)))]

end Reconciler
