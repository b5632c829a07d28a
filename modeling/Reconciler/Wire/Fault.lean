import Reconciler.Document.Basic
import Reconciler.Text.Quoted
import Reconciler.Timestamp

namespace Reconciler.Wire

/-!
# Why a document does not read as a value

* `Finding` — what stood in the place of the expected value;
* `DecodeError` — the causes, and `DecodeError.message`, their wording.
-/

/-- The value found where another was expected, as far as messages show it. -/
inductive Finding where
  | null
  | boolean (b : Bool)
  | number (n : Number)
  | text (s : String)
  | sequence
  | map
deriving DecidableEq, Repr

/-- What messages show of a document. -/
def Finding.ofDocument : Document → Finding
  | .null => null
  | .bool b => boolean b
  | .num n => number n
  | .str s => text s
  | .arr _ => sequence
  | .obj _ => map

/-- A finding in a message. -/
def Finding.phrase : Finding → String
  | null => "null"
  | boolean b => "boolean \x60" ++ (if b then "true" else "false") ++ "\x60"
  | number (.int n) => "integer \x60" ++ String.ofList (Number.intText n) ++ "\x60"
  | number (.float x) => "floating point \x60" ++ String.ofList x.text ++ "\x60"
  | text s => "string " ++ Text.quote s
  | sequence => "sequence"
  | map => "map"

/-- Why a document does not read as a value. -/
inductive DecodeError where
  /-- A value of another kind than the expected one. -/
  | wrongKind (found : Finding) (expected : String)
  /-- An integer outside the range of its type. -/
  | outOfRange (n : Int) (type : String)
  /-- An object that stands for a variant, with no key or with several. -/
  | notSingleKey
  /-- A variant that is not among the known ones. -/
  | unknownVariant (name : String) (known : List String)
  /-- A record without a member that it needs. -/
  | missingField (name : String)
  /-- A record written as a list that ends before a member it needs. -/
  | tooFewElements (length : Nat) (record : String) (fields : Nat)
  /-- A record written as a list with more elements than members. -/
  | tooManyElements (length : Nat)
  /-- A text that is no timestamp. -/
  | timestamp (fault : TimestampFault)
deriving DecidableEq, Repr

/-- A name between grave accents. -/
def ticked (s : String) : String :=
  "\x60" ++ s ++ "\x60"

/-- The known variants in a message. -/
def oneOf : List String → String
  | [] => "there are no variants"
  | [a] => "expected " ++ ticked a
  | [a, b] => "expected " ++ ticked a ++ " or " ++ ticked b
  | known => "expected one of " ++ String.intercalate ", " (known.map ticked)

/-- The wording of a cause. -/
def DecodeError.message : DecodeError → String
  | wrongKind found expected => "invalid type: " ++ found.phrase ++ ", expected " ++ expected
  | outOfRange n type =>
    "invalid value: integer " ++ ticked (String.ofList (Number.intText n)) ++ ", expected " ++ type
  | notSingleKey => "invalid value: map, expected map with a single key"
  | unknownVariant name known => "unknown variant " ++ ticked name ++ ", " ++ oneOf known
  | missingField name => "missing field " ++ ticked name
  | tooFewElements length record fields =>
    "invalid length " ++ toString length ++ ", expected struct " ++ record ++ " with " ++
      toString fields ++ (if fields = 1 then " element" else " elements")
  | tooManyElements length =>
    "invalid length " ++ toString length ++ ", expected fewer elements in array"
  | timestamp fault => fault.message

/-- A reader of documents. -/
abbrev Decoder (α : Type) := Document → Except DecodeError α

end Reconciler.Wire
