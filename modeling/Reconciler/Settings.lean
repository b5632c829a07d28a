import Reconciler.Text.Blank
import Reconciler.Wire.Record

namespace Reconciler

/-!
# Settings of the engine

* `Category`, `Categories` — the groups of entries that a report may list, and a
  choice of them;
* `Categories.ofText` — a choice written as names between commas;
* `Settings` — the limits and texts that tasks are carried out with;
* `Settings.ofLookup` — settings from named texts, such as an environment.
-/

/-- A group of entries that a report may list one by one. -/
inductive Category where
  | create
  | skip
  | desiredDelete
  | explicitDelete
  | desiredUpdate
  | explicitUpdate
deriving DecidableEq, Repr

namespace Category

/-- Every category, in the order in which they are written. -/
def all : List Category :=
  [create, skip, desiredDelete, explicitDelete, desiredUpdate, explicitUpdate]

/-- The name of a category. -/
def name : Category → String
  | create => "create"
  | skip => "skip"
  | desiredDelete => "desired-delete"
  | explicitDelete => "explicit-delete"
  | desiredUpdate => "desired-update"
  | explicitUpdate => "explicit-update"

/-- The category that a name in a list stands for. -/
def ofName? : String → Option Category
  | "create" => some create
  | "skip" => some skip
  | "desired-delete" => some desiredDelete
  | "explicit-delete" => some explicitDelete
  | "desired-update" => some desiredUpdate
  | "explicit-update" => some explicitUpdate
  | _ => none

end Category

/-- A choice of categories. -/
structure Categories where
  contains : Category → Bool

namespace Categories

/-- No category. -/
def none : Categories := ⟨fun _ => false⟩

/-- Every category. -/
def all : Categories := ⟨fun _ => true⟩

instance : Inhabited Categories := ⟨none⟩

/-- One category more. -/
def insert (c : Category) (s : Categories) : Categories :=
  ⟨fun c' => c' = c || s.contains c'⟩

/-- The chosen categories, in the order of `Category.all`. -/
def toList (s : Categories) : List Category :=
  Category.all.filter s.contains

/-- The choice of a list of categories. -/
def ofList (cs : List Category) : Categories :=
  cs.foldl (fun s c => s.insert c) none

/-- The entries of a list between commas, without blanks at their ends and without
    the empty ones, in lower case. -/
def tokens (s : String) : List String :=
  (((s.toList.splitOn ',').map Text.trim).filter fun t => !t.isEmpty).map fun t =>
    String.ofList (t.map Char.toLower)

/-- Adds the categories that entries name, up to an entry that names all of them.
    Unknown entries name none. -/
def addTokens (s : Categories) : List String → Categories
  | [] => s
  | t :: rest =>
    if t = "all" then all
    else
      match Category.ofName? t with
      | some c => addTokens (s.insert c) rest
      | Option.none => addTokens s rest

/-- The choice that a list of names between commas stands for. -/
def ofText (s : String) : Categories :=
  addTokens none (tokens s)

end Categories

/-- The settings that tasks are carried out with. -/
structure Settings where
  /-- The groups of entries that reports list. -/
  categories : Categories
  /-- The largest number of replicas that a task may ask for. -/
  maxReplicas : UInt32
  /-- What stands between the name of a resource and the index of a replica. -/
  separator : String
deriving Inhabited

namespace Settings

/-- Reports without lists, up to a thousand replicas, a hyphen before an index. -/
def default : Settings := ⟨Categories.none, 1000, "-"⟩

/-- A positive number of 32 bits: digits, with a plus sign or not. -/
def positive? (cs : List Char) : Option UInt32 :=
  let digits := match cs with
    | '+' :: rest => rest
    | cs => cs
  let n := Nat.ofDigitChars 10 digits 0
  if !digits.isEmpty && digits.all Char.isDigit && 0 < n && n < 0x100000000 then
    some (UInt32.ofNat n)
  else none

/-- Settings from texts looked up by name.  A text that is missing or not valid
    leaves the default. -/
def ofLookup (lookup : String → Option String) : Settings where
  categories :=
    match lookup "CONVERGE_INCLUDE_INFO" with
    | some s => Categories.ofText s
    | none => default.categories
  maxReplicas :=
    match lookup "CONVERGE_MAX_REPLICAS" with
    | some s => (positive? (Text.trim s.toList)).getD default.maxReplicas
    | none => default.maxReplicas
  separator :=
    match lookup "CONVERGE_NAME_SEPARATOR" with
    | some s => if s.isEmpty then default.separator else s
    | none => default.separator

end Settings

/-! ### Wire form -/

open Wire

/-- Reads a choice of categories from a list of their names. -/
def Categories.decode : Decoder Categories := fun d =>
  (list (variant (Category.all.map fun c => (c.name, c))) d).map ofList

/-- Writes the names of the chosen categories. -/
def Categories.encode (s : Categories) : Document :=
  .arr (s.toList.map fun c => .str c.name)

/-- Reads settings. -/
def Settings.decode : Decoder Settings :=
  record "EngineConfig" <|
    Settings.mk <$> required "include_info" Categories.decode
      <*> required "max_replicas" uint32 <*> required "name_separator" string

/-- Writes settings. -/
def Settings.encode (s : Settings) : Document :=
  ofParts [("include_info", some s.categories.encode),
    ("max_replicas", some (.nat s.maxReplicas.toNat)),
    ("name_separator", some (.str s.separator))]

end Reconciler
