import Reconciler.Document.Basic

namespace Reconciler.Document

/-!
# Documents from text

A reader takes the characters that are left and returns a value with the
characters after it, or nothing when the text does not have the expected form.

* `readString?`, `readNumber?` — scalars;
* `readValue?` — any value, to the depth its fuel allows;
* `read?` — a whole text.
-/

/-- Drops the blanks that may stand between tokens. -/
def skipSpace (cs : List Char) : List Char :=
  cs.dropWhile fun c => c == ' ' || c == '\n' || c == '\r' || c == '\t'

/-! ### Strings -/

/-- The value of a hexadecimal digit. -/
def hexDigit? (c : Char) : Option Nat :=
  if '0' ≤ c ∧ c ≤ '9' then some (c.toNat - '0'.toNat)
  else if 'a' ≤ c ∧ c ≤ 'f' then some (c.toNat - 'a'.toNat + 10)
  else if 'A' ≤ c ∧ c ≤ 'F' then some (c.toNat - 'A'.toNat + 10)
  else none

/-- A 16-bit unit of four hexadecimal digits. -/
def unit? (a b c d : Char) : Option Nat := do
  return (((← hexDigit? a) * 16 + (← hexDigit? b)) * 16 + (← hexDigit? c)) * 16 + (← hexDigit? d)

/-- A unit of the first half of a surrogate pair. -/
def isHighSurrogate (n : Nat) : Bool := 0xD800 ≤ n && n < 0xDC00

/-- A unit of the second half of a surrogate pair. -/
def isLowSurrogate (n : Nat) : Bool := 0xDC00 ≤ n && n < 0xE000

/-- The character that a letter after a backslash stands for. -/
def escaped? : Char → Option Char
  | '"' => some '"'
  | '\\' => some '\\'
  | '/' => some '/'
  | 'b' => some '\x08'
  | 'f' => some '\x0c'
  | 'n' => some '\n'
  | 'r' => some '\r'
  | 't' => some '\t'
  | _ => none

/-- The rest of a string whose opening quote has been read.  `done` holds the
    characters so far, the last one first. -/
def readChars? (done : List Char) : List Char → Option (String × List Char)
  | [] => none
  | '"' :: rest => some (String.ofList done.reverse, rest)
  | '\\' :: 'u' :: a :: b :: c :: d :: '\\' :: 'u' :: a' :: b' :: c' :: d' :: rest => do
    let n ← unit? a b c d
    if isHighSurrogate n then
      let m ← unit? a' b' c' d'
      if isLowSurrogate m then
        readChars? (Char.ofNat (0x10000 + (n - 0xD800) * 0x400 + (m - 0xDC00)) :: done) rest
      else none
    else if isLowSurrogate n then none
    else
      readChars? (Char.ofNat n :: done) ('\\' :: 'u' :: a' :: b' :: c' :: d' :: rest)
  | '\\' :: 'u' :: a :: b :: c :: d :: rest => do
    let n ← unit? a b c d
    if isHighSurrogate n || isLowSurrogate n then none
    else readChars? (Char.ofNat n :: done) rest
  | '\\' :: c :: rest => do
    readChars? ((← escaped? c) :: done) rest
  | c :: rest => if c.toNat < 0x20 then none else readChars? (c :: done) rest
termination_by cs => cs.length

/-- A string, its opening quote included. -/
def readString? : List Char → Option (String × List Char)
  | '"' :: rest => readChars? [] rest
  | _ => none

/-! ### Numbers -/

/-- One digit or more. -/
def readDigits? (cs : List Char) : Option (List Char × List Char) :=
  match cs.takeWhile Char.isDigit with
  | [] => none
  | digits => some (digits, cs.dropWhile Char.isDigit)

/-- The exponent after its mark, with a sign or without. -/
def readExponent? (cs : List Char) : Option (Int × List Char) := do
  match cs with
  | '-' :: rest =>
    let (digits, rest) ← readDigits? rest
    return (-(Nat.ofDigitChars 10 digits 0 : Int), rest)
  | '+' :: rest =>
    let (digits, rest) ← readDigits? rest
    return ((Nat.ofDigitChars 10 digits 0 : Int), rest)
  | rest =>
    let (digits, rest) ← readDigits? rest
    return ((Nat.ofDigitChars 10 digits 0 : Int), rest)

/-- The digits after a point, if there is one. -/
def readFraction? (cs : List Char) : Option (Option (List Char) × List Char) := do
  match cs with
  | '.' :: rest =>
    let (digits, rest) ← readDigits? rest
    return (some digits, rest)
  | rest => return (none, rest)

/-- A number; digits before the point have no superfluous leading zero. -/
def readNumber? (cs : List Char) : Option (Number × List Char) := do
  let (negative, cs) := match cs with
    | '-' :: rest => (true, rest)
    | rest => (false, rest)
  let (whole, cs) ← readDigits? cs
  guard (whole.length = 1 ∨ whole.head? ≠ some '0')
  let (fraction, cs) ← readFraction? cs
  let (exponent, cs) ← match cs with
    | 'e' :: rest | 'E' :: rest => (readExponent? rest).map fun (e, rest) => (some e, rest)
    | rest => some (none, rest)
  return (← NumberToken.value? ⟨negative, whole, fraction, exponent⟩, cs)

/-! ### Values -/

mutual

/-- A value, after blanks. -/
def readValue? (fuel : Nat) (cs : List Char) : Option (Document × List Char) :=
  match fuel with
  | 0 => none
  | fuel + 1 =>
    match skipSpace cs with
    | 'n' :: 'u' :: 'l' :: 'l' :: rest => some (null, rest)
    | 't' :: 'r' :: 'u' :: 'e' :: rest => some (bool true, rest)
    | 'f' :: 'a' :: 'l' :: 's' :: 'e' :: rest => some (bool false, rest)
    | '"' :: rest => (readChars? [] rest).map fun (s, rest) => (str s, rest)
    | '[' :: rest =>
      match skipSpace rest with
      | ']' :: rest => some (arr [], rest)
      | rest => (readItems? fuel rest).map fun (xs, rest) => (arr xs, rest)
    | '\x7b' :: rest =>
      match skipSpace rest with
      | '\x7d' :: rest => some (obj [], rest)
      | rest => (readMembers? fuel rest).map fun (ms, rest) => (ofMembers ms, rest)
    | rest => (readNumber? rest).map fun (n, rest) => (num n, rest)

/-- Items up to the closing bracket. -/
def readItems? (fuel : Nat) (cs : List Char) : Option (List Document × List Char) :=
  match fuel with
  | 0 => none
  | fuel + 1 => do
    let (x, rest) ← readValue? fuel cs
    match skipSpace rest with
    | ',' :: rest =>
      let (xs, rest) ← readItems? fuel rest
      return (x :: xs, rest)
    | ']' :: rest => return ([x], rest)
    | _ => none

/-- Members up to the closing brace. -/
def readMembers? (fuel : Nat) (cs : List Char) :
    Option (List (String × Document) × List Char) :=
  match fuel with
  | 0 => none
  | fuel + 1 => do
    let (k, rest) ← readString? (skipSpace cs)
    match skipSpace rest with
    | ':' :: rest =>
      let (x, rest) ← readValue? fuel rest
      match skipSpace rest with
      | ',' :: rest =>
        let (xs, rest) ← readMembers? fuel rest
        return ((k, x) :: xs, rest)
      | '\x7d' :: rest => return ([(k, x)], rest)
      | _ => none
    | _ => none

end

/-- The document that a whole text holds.  A value takes fewer steps than it has
    characters, so the fuel always lasts. -/
def read? (text : String) : Option Document := do
  let cs := text.toList
  let (d, rest) ← readValue? (cs.length + 1) cs
  guard (skipSpace rest).isEmpty
  return d

end Reconciler.Document
