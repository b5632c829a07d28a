import Reconciler.Wire.Fault

namespace Reconciler.Wire

/-!
# Reading and writing simple values

* `string`, `boolean`, `int64`, `int32`, `uint32`, `count` — scalars;
* `timestamp` — an instant, written as a string;
* `list`, `stringTable`, `nullable` — collections and values that may be null;
* `variant` — a choice among names;
* `ofParts`, `ofTable`, `encodeTexts`, `orNull` — values for writing.
-/

/-- The fault of a document that is not what was expected. -/
def wrongKind {α : Type} (d : Document) (expected : String) : Except DecodeError α :=
  .error (.wrongKind (Finding.ofDocument d) expected)

/-! ### Scalars -/

/-- A string. -/
def string : Decoder String
  | .str s => .ok s
  | d => wrongKind d "a string"

/-- A boolean. -/
def boolean : Decoder Bool
  | .bool b => .ok b
  | d => wrongKind d "a boolean"

/-- An integer from `least` to `most`, of the type with this name. -/
def integer (type : String) (least most : Int) : Decoder Int
  | .num (.int n) => if least ≤ n ∧ n ≤ most then .ok n else .error (.outOfRange n type)
  | d => wrongKind d type

/-- A signed integer of 64 bits. -/
def int64 : Decoder Int64 := fun d =>
  (integer "i64" (-0x8000000000000000) 0x7FFFFFFFFFFFFFFF d).map Int64.ofInt

/-- A signed integer of 32 bits. -/
def int32 : Decoder Int32 := fun d =>
  (integer "i32" (-0x80000000) 0x7FFFFFFF d).map Int32.ofInt

/-- An unsigned integer of 32 bits. -/
def uint32 : Decoder UInt32 := fun d =>
  (integer "u32" 0 0xFFFFFFFF d).map fun n => UInt32.ofNat n.toNat

/-- A count. -/
def count : Decoder Nat
  | .num (.int n) => if 0 ≤ n then .ok n.toNat else .error (.outOfRange n "usize")
  | d => wrongKind d "usize"

/-- An instant. -/
def timestamp : Decoder Timestamp
  | .str s =>
    match Timestamp.parse s with
    | .ok t => .ok t
    | .error fault => .error (.timestamp fault)
  | d => wrongKind d "an RFC 3339 formatted date and time string"

/-! ### Collections -/

/-- A list; the first item that does not read is the fault. -/
def list {α : Type} (item : Decoder α) : Decoder (List α)
  | .arr items => items.mapM item
  | d => wrongKind d "a sequence"

/-- An object of strings. -/
def stringTable : Decoder (Table String String)
  | .obj members => do
    let entries ← members.mapM fun (k, d) => do return (k, ← string d)
    return Table.ofList entries
  | d => wrongKind d "a map"

/-- A value, or null for none. -/
def nullable {α : Type} (value : Decoder α) : Decoder (Option α)
  | .null => .ok none
  | d => (value d).map some

/-! ### Variants -/

/-- The variant with this name. -/
def variantNamed {α : Type} (known : List (String × α)) (name : String) :
    Except DecodeError α :=
  match known.lookup name with
  | some x => .ok x
  | none => .error (.unknownVariant name (known.map (·.1)))

/-- One of the known variants, by its name or as an object whose only member has
    that name and is null. -/
def variant {α : Type} (known : List (String × α)) : Decoder α
  | .str name => variantNamed known name
  | .obj [(name, payload)] => do
    let x ← variantNamed known name
    match payload with
    | .null => .ok x
    | payload => wrongKind payload "unit"
  | .obj _ => .error .notSingleKey
  | d => wrongKind d "string or map"

/-! ### Writing -/

/-- The object of the parts that are there, which are listed in key order. -/
def ofParts (parts : List (String × Option Document)) : Document :=
  .obj (parts.filterMap fun (k, part) => part.map (k, ·))

/-- The first part with this key that is there. -/
def part? (k : String) : List (String × Option Document) → Option Document
  | [] => none
  | (k', part) :: rest => if k = k' then part <|> part? k rest else part? k rest

/-- A lookup in a written object is a lookup among its parts. -/
theorem get?_ofParts (k : String) (parts : List (String × Option Document)) :
    Entries.get? k (parts.filterMap fun (k, part) => part.map (k, ·)) = part? k parts := by
  induction parts with
  | nil => rfl
  | cons p rest ih =>
    obtain ⟨k', part⟩ := p
    cases part with
    | none => simp [part?, ih]
    | some d => by_cases h : k = k' <;> simp [part?, Entries.get?_cons, h, ih]

/-- The object of a table of strings. -/
def ofTable (t : Table String String) : Document :=
  .obj (t.entries.map fun (k, s) => (k, .str s))

/-- The strings of a list, unless there are none. -/
def encodeTexts (xs : List String) : Option Document :=
  if xs.isEmpty then none else some (.arr (xs.map .str))

/-- A document for a value that is there, and null for none. -/
def orNull {α : Type} (value : α → Document) : Option α → Document
  | some x => value x
  | none => .null

end Reconciler.Wire
