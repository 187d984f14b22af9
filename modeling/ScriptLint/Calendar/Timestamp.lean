import ScriptLint.Calendar.Reading

/-!
# Timestamps

The internet form of an instant: a date, a `T`, a time of day, and the offset of the local time.
It is written in universal time, with as many groups of three decimals as the instant needs and a
sign before years that do not have four digits.  It is read strictly, or with blanks between its
parts.
-/

namespace ScriptLint.Calendar

open Text

/-- The decimal digits of a number, filled up with zeros to a width. -/
def padded (width n : Nat) : List Char :=
  let digits := (toString n).toList
  List.replicate (width - digits.length) '0' ++ digits

/-- A year: four digits, or a sign and at least four digits. -/
def yearText (year : Int) : List Char :=
  if 0 ≤ year ∧ year ≤ 9999 then padded 4 year.toNat
  else (if year < 0 then '-' else '+') :: padded 4 year.natAbs

/-- The decimals of a second: none, three, six or nine, as many as are needed. -/
def decimalsText (nanos : Nat) : List Char :=
  if nanos = 0 then []
  else if nanos % 1000000 = 0 then '.' :: padded 3 (nanos / 1000000)
  else if nanos % 1000 = 0 then '.' :: padded 6 (nanos / 1000)
  else '.' :: padded 9 nanos

namespace Instant

/-- An instant as a timestamp, without the offset at its end. -/
def timestampStem (instant : Instant) : List Char :=
  let date := Date.ofDayNumber instant.day
  let leap := nanosPerSecond ≤ instant.nanos
  let second := instant.second % 60 + if leap then 1 else 0
  yearText date.year ++ '-' :: padded 2 date.month ++ '-' :: padded 2 date.day ++
    'T' :: padded 2 (instant.second / 3600) ++ ':' :: padded 2 (instant.second / 60 % 60) ++
    ':' :: padded 2 second ++
    decimalsText (if leap then instant.nanos - nanosPerSecond else instant.nanos)

def zuluText (instant : Instant) : String :=
  String.ofList (instant.timestampStem ++ ['Z'])

def offsetText (instant : Instant) : String :=
  String.ofList (instant.timestampStem ++ "+00:00".toList)

end Instant

def readTimeMark? : List Char → Option (List Char)
  | c :: rest => if c = 'T' ∨ c = 't' ∨ c = ' ' then some rest else none
  | [] => none

/-- The instant of a timestamp in its strict form, in which every part has its full width and the
year four digits. -/
def readTimestamp? (chars : List Char) : Option Instant := do
  let (year, rest) ← readNumber? 4 4 chars
  let (month, rest) ← readNumber? 2 2 (← readChar? '-' rest)
  let (day, rest) ← readNumber? 2 2 (← readChar? '-' rest)
  let (hour, rest) ← readNumber? 2 2 (← readTimeMark? rest)
  let (minute, rest) ← readNumber? 2 2 (← readChar? ':' rest)
  let (second, rest) ← readNumber? 2 2 (← readChar? ':' rest)
  let (nanos, rest) ← readOptionalNanos? rest
  let (ahead, rest) ← readZone? (readChar? ':') rest
  if rest.isEmpty then Stamp.instant? ⟨year, month, day, none, hour, minute, second, nanos, ahead⟩
  else none

/-- A year in a loose timestamp: up to four digits, or a sign and any number of digits. -/
def readYear? : List Char → Option (Int × List Char)
  | '-' :: rest => (readLongNumber? 1 rest).map fun (year, behind) => (-(year : Int), behind)
  | '+' :: rest => (readLongNumber? 1 rest).map fun (year, behind) => ((year : Int), behind)
  | chars => (readNumber? 1 4 chars).map fun (year, behind) => ((year : Int), behind)

/-- A number of one or two digits with blanks before it. -/
def readShort? (chars : List Char) : Option (Nat × List Char) :=
  readNumber? 1 2 (trimStart chars)

def readMark? (mark : Char) (chars : List Char) : Option (List Char) :=
  readChar? mark (trimStart chars)

/-- Colons and blanks, in any number. -/
def skipColons (chars : List Char) : Option (List Char) :=
  some (chars.dropWhile fun c => c = ':' ∨ isBlank c)

/-- The offset of a loose timestamp, which may also be given as `UTC`. -/
def readLooseZone? (chars : List Char) : Option (Int × List Char) :=
  match readWord? ["utc"] chars with
  | some (_, rest) => some (0, rest)
  | none => readZone? skipColons chars

/-- The instant of a timestamp with blanks allowed before its parts, parts of one digit, and years
of any size. -/
def readLooseTimestamp? (chars : List Char) : Option Instant := do
  let (year, rest) ← readYear? (trimStart chars)
  let (month, rest) ← readShort? (← readMark? '-' rest)
  let (day, rest) ← readShort? (← readMark? '-' rest)
  let (hour, rest) ← readShort? (← readTimeMark? rest)
  let (minute, rest) ← readShort? (← readMark? ':' rest)
  let (second, rest) ← readShort? (← readMark? ':' rest)
  let (nanos, rest) ← readOptionalNanos? rest
  let (ahead, rest) ← readLooseZone? (trimStart rest)
  if (trimStart rest).isEmpty then
    Stamp.instant? ⟨year, month, day, none, hour, minute, second, nanos, ahead⟩
  else none

end ScriptLint.Calendar
