import Reconciler.Text.Blank

namespace Reconciler

/-!
# Timestamps

A timestamp is an instant in UTC by its calendar fields.  It is read from an
RFC 3339 text with any offset, and written to the second with a `Z`.

* `Date`, `Timestamp` — days of the proleptic Gregorian calendar, and instants;
* `Timestamp.parse` — the reader, which allows blanks between the fields, a space
  or a small `t` before the time, and the word `UTC`;
* `Timestamp.text` — the written form;
* `TimestampFault` — why a text is no timestamp.
-/

/-- What is wrong with the text of a timestamp. -/
inductive TimestampFault where
  | premature
  | invalid
  | outOfRange
  | trailing
  | impossible
deriving DecidableEq, Repr

/-- The wording of a fault. -/
def TimestampFault.message : TimestampFault → String
  | premature => "premature end of input"
  | invalid => "input contains invalid characters"
  | outOfRange => "input is out of range"
  | trailing => "trailing input"
  | impossible => "no possible date and time matching input"

/-! ### Dates -/

/-- Divisible by four; of the full centuries, only every fourth. -/
def isLeapYear (year : Int) : Bool :=
  year % 4 == 0 && (year % 100 != 0 || year % 400 == 0)

/-- The number of days in a month. -/
def daysInMonth (year : Int) (month : Nat) : Nat :=
  match month with
  | 2 => if isLeapYear year then 29 else 28
  | 4 | 6 | 9 | 11 => 30
  | _ => 31

/-- The days of the calendar, in the years that a date can hold. -/
def isDate (year : Int) (month day : Nat) : Bool :=
  -262143 ≤ year && year ≤ 262142 && 1 ≤ month && month ≤ 12 &&
    1 ≤ day && day ≤ daysInMonth year month

/-- A day of the calendar. -/
structure Date where
  year : Int
  month : Nat
  day : Nat
  valid : isDate year month day = true
deriving DecidableEq, Repr

namespace Date

/-- The date of three fields, if there is one. -/
def ofFields? (year : Int) (month day : Nat) : Option Date :=
  if h : isDate year month day = true then some ⟨year, month, day, h⟩ else none

/-- The day after. -/
def next? (d : Date) : Option Date :=
  if d.day < daysInMonth d.year d.month then ofFields? d.year d.month (d.day + 1)
  else if d.month < 12 then ofFields? d.year (d.month + 1) 1
  else ofFields? (d.year + 1) 1 1

/-- The day before. -/
def previous? (d : Date) : Option Date :=
  if 1 < d.day then ofFields? d.year d.month (d.day - 1)
  else if 1 < d.month then ofFields? d.year (d.month - 1) (daysInMonth d.year (d.month - 1))
  else ofFields? (d.year - 1) 12 31

end Date

/-- An instant in UTC.  The second 60 is a leap second. -/
structure Timestamp where
  date : Date
  hour : Fin 24
  minute : Fin 60
  second : Fin 61
  nanosecond : Fin 1000000000
deriving DecidableEq, Repr

namespace Timestamp

/-! ### Writing -/

/-- The digits of `n`, with zeros in front up to `width`. -/
def padded (width n : Nat) : List Char :=
  let digits := Nat.toDigits 10 n
  List.replicate (width - digits.length) '0' ++ digits

/-- Four digits; outside the first ten thousand years, a sign in front of them. -/
def yearText (year : Int) : List Char :=
  if 0 ≤ year ∧ year ≤ 9999 then padded 4 year.natAbs
  else (if year < 0 then '-' else '+') :: padded 4 year.natAbs

/-- The instant to the second, the fraction cut off. -/
def text (t : Timestamp) : String :=
  String.ofList <|
    yearText t.date.year ++ '-' :: padded 2 t.date.month ++ '-' :: padded 2 t.date.day ++
      'T' :: padded 2 t.hour ++ ':' :: padded 2 t.minute ++ ':' :: padded 2 t.second ++ ['Z']

/-! ### Reading

Each reader takes the characters that are left and returns its value with the
characters after it. -/

/-- A reader of `α`. -/
abbrev Read (α : Type) := List Char → Except TimestampFault (α × List Char)

/-- Between one digit and `width` digits. -/
def readDigits (width : Nat) : Read Nat := fun cs =>
  match (cs.take width).takeWhile Char.isDigit with
  | [] => if cs.isEmpty then .error .premature else .error .invalid
  | digits => .ok (Nat.ofDigitChars 10 digits 0, cs.drop digits.length)

/-- One character. -/
def readMark (mark : Char) : Read Unit
  | [] => .error .premature
  | c :: rest => if c = mark then .ok ((), rest) else .error .invalid

/-- A year: four digits at most, or a sign and any number of them. -/
def readYear : Read Int := fun cs => do
  let (year, rest) ← match Text.skipBlanks cs with
    | '-' :: rest => do
      let (n, rest) ← readDigits rest.length rest
      pure (-(n : Int), rest)
    | '+' :: rest => do
      let (n, rest) ← readDigits rest.length rest
      pure ((n : Int), rest)
    | rest => do
      let (n, rest) ← readDigits 4 rest
      pure ((n : Int), rest)
  if -2147483648 ≤ year ∧ year ≤ 2147483647 then return (year, rest)
  else throw .outOfRange

/-- A field of two digits at most, from `least` to `most`, after blanks. -/
def readField (least most : Nat) : Read Nat := fun cs => do
  let (n, rest) ← readDigits 2 (Text.skipBlanks cs)
  if least ≤ n ∧ n ≤ most then return (n, rest) else throw .outOfRange

/-- A separator between fields, after blanks. -/
def readSeparator (mark : Char) : Read Unit := fun cs =>
  readMark mark (Text.skipBlanks cs)

/-- A fraction of a second after a point, in nanoseconds; digits past the ninth
    are dropped. -/
def readFraction : Read Nat
  | '.' :: cs => do
    let (n, rest) ← readDigits 9 cs
    let width := cs.length - rest.length
    return (n * Nat.pow 10 (9 - width), rest.dropWhile Char.isDigit)
  | cs => .ok (0, cs)

/-- The letter between date and time. -/
def readDateEnd : Read Unit
  | [] => .error .premature
  | c :: rest => if c = 't' ∨ c = 'T' ∨ c = ' ' then .ok ((), rest) else .error .invalid

/-- The length of a text in bytes, which decides whether an offset is cut short. -/
def byteLength (cs : List Char) : Nat :=
  (String.ofList cs).utf8ByteSize

/-- The two digits of the hours of an offset. -/
def readOffsetHours : Read Nat := fun cs =>
  if byteLength cs < 2 then .error .premature
  else
    match cs with
    | a :: b :: rest =>
      if a.isDigit ∧ b.isDigit then .ok (Nat.ofDigitChars 10 [a, b] 0, rest)
      else .error .invalid
    | _ => .error .invalid

/-- The two digits of the minutes of an offset. -/
def readOffsetMinutes : Read Nat := fun cs => do
  let (minutes, rest) ← readOffsetHours cs
  if minutes < 60 then return (minutes, rest) else throw .outOfRange

/-- A signed offset in minutes; any colons and blanks may stand in it. -/
def readSignedOffset (cs : List Char) : Except TimestampFault (Int × List Char) := do
  let (sign, rest) ← match cs with
    | [] => throw .premature
    | '+' :: rest => pure ((1 : Int), rest)
    | '-' :: rest => pure ((-1 : Int), rest)
    | '\u2212' :: rest => pure ((-1 : Int), rest)
    | _ => throw .invalid
  let (hours, rest) ← readOffsetHours rest
  let rest := rest.dropWhile fun c => c == ':' || Text.isBlank c
  let (minutes, rest) ← readOffsetMinutes rest
  return (sign * (hours * 60 + minutes), rest)

/-- The offset from UTC, in minutes: the word `UTC`, `Z`, or a signed one. -/
def readOffset : Read Int
  | u :: t :: c :: rest =>
    if u.toUpper = 'U' ∧ t.toUpper = 'T' ∧ c.toUpper = 'C' then .ok (0, rest)
    else if u.toUpper = 'Z' then .ok (0, t :: c :: rest)
    else readSignedOffset (u :: t :: c :: rest)
  | z :: rest => if z.toUpper = 'Z' then .ok (0, rest) else readSignedOffset (z :: rest)
  | [] => .error .premature

/-- A time of day on `date`, `offset` minutes ahead of UTC, as an instant. -/
def ofLocal (date : Date) (hour minute second nanosecond : Nat) (offset : Int) :
    Except TimestampFault Timestamp :=
  let minutes : Int := hour * 60 + minute - offset
  let ofDay (date? : Option Date) : Except TimestampFault Timestamp :=
    match date? with
    | none => .error .impossible
    | some date =>
      let inDay := (minutes % 1440).toNat
      .ok ⟨date, Fin.ofNat 24 (inDay / 60), Fin.ofNat 60 (inDay % 60), Fin.ofNat 61 second,
        Fin.ofNat 1000000000 nanosecond⟩
  if 1440 ≤ offset.natAbs then .error .outOfRange
  else if minutes < 0 then ofDay date.previous?
  else if 1440 ≤ minutes then ofDay date.next?
  else ofDay (some date)

/-- Reads a timestamp. -/
def parse (s : String) : Except TimestampFault Timestamp := do
  let (year, rest) ← readYear s.toList
  let ((), rest) ← readSeparator '-' rest
  let (month, rest) ← readField 1 12 rest
  let ((), rest) ← readSeparator '-' rest
  let (day, rest) ← readField 1 31 rest
  let ((), rest) ← readDateEnd rest
  let (hour, rest) ← readField 0 23 rest
  let ((), rest) ← readSeparator ':' rest
  let (minute, rest) ← readField 0 59 rest
  let ((), rest) ← readSeparator ':' rest
  let (second, rest) ← readField 0 60 rest
  let (nanosecond, rest) ← readFraction rest
  let (offset, rest) ← readOffset (Text.skipBlanks rest)
  if !(Text.skipBlanks rest).isEmpty then throw .trailing
  match Date.ofFields? year month day with
  | none => throw .outOfRange
  | some date => ofLocal date hour minute second nanosecond offset

end Timestamp

end Reconciler
