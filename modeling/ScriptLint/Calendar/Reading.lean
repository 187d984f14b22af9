import ScriptLint.Calendar.Instant
import ScriptLint.Text.Blank

/-!
# Reading the parts of dates

Every reader takes a part off the front of a text and gives back the text behind it, or nothing
when the text does not begin with such a part.
-/

namespace ScriptLint.Calendar

open Text

def decimalValue (digits : List Char) : Nat :=
  digits.foldl (fun value digit => value * 10 + (digit.toNat - 48)) 0

/-- A number of at least and at most so many digits. -/
def readNumber? (least most : Nat) (chars : List Char) : Option (Nat × List Char) :=
  let digits := (chars.take most).takeWhile Char.isDigit
  if digits.length < least ∨ decimalValue digits ≥ Nat.pow 2 63 then none
  else some (decimalValue digits, chars.drop digits.length)

/-- A number of one or more digits, however many. -/
def readLongNumber? (least : Nat) (chars : List Char) : Option (Nat × List Char) :=
  readNumber? least chars.length chars

def readChar? (expected : Char) : List Char → Option (List Char)
  | c :: rest => if c = expected then some rest else none
  | [] => none

/-- Blanks, of which there has to be one. -/
def readBlanks? : List Char → Option (List Char)
  | c :: rest => if isBlank c then some (trimStart rest) else none
  | [] => none

/-- The fraction of a second after its point, in nanoseconds; digits after the ninth are passed
over. -/
def readNanos? (chars : List Char) : Option (Nat × List Char) := do
  let (value, rest) ← readNumber? 1 9 chars
  return (value * Nat.pow 10 (9 - (chars.length - rest.length)), rest.dropWhile Char.isDigit)

/-- The fraction of a second with its point, if there is one. -/
def readOptionalNanos? : List Char → Option (Nat × List Char)
  | '.' :: rest => readNanos? rest
  | chars => some (0, chars)

/-- The place in a list of the word that a text begins with, in any case. -/
def readWord? (names : List String) (chars : List Char) : Option (Nat × List Char) :=
  let hit := names.findIdx? fun word => word.toList.isPrefixOf (chars.map Char.toLower)
  hit.map fun index => (index, chars.drop (names.getD index "").length)

/-- The short names of the days of the week, from Monday. -/
def weekdayNames : List String :=
  ["mon", "tue", "wed", "thu", "fri", "sat", "sun"]

/-- What the long names of the days of the week add to the short ones. -/
def weekdayEndings : List String :=
  ["day", "sday", "nesday", "rsday", "day", "urday", "day"]

def monthNames : List String :=
  ["jan", "feb", "mar", "apr", "may", "jun", "jul", "aug", "sep", "oct", "nov", "dec"]

def readWeekday? (chars : List Char) : Option (Nat × List Char) :=
  readWord? weekdayNames chars

def readLongWeekday? (chars : List Char) : Option (Nat × List Char) := do
  let (weekday, rest) ← readWeekday? chars
  match readWord? [weekdayEndings.getD weekday ""] rest with
  | some (_, behind) => return (weekday, behind)
  | none => return (weekday, rest)

/-- The short name of a month, giving its number from one. -/
def readMonth? (chars : List Char) : Option (Nat × List Char) :=
  (readWord? monthNames chars).map fun (index, rest) => (index + 1, rest)

abbrev Separator := List Char → Option (List Char)

/-- How far a local time is ahead of universal time, in seconds: a sign, two digits for the hours,
a separator, and two digits for the minutes. -/
def readOffset? (separator : Separator) (mathMinus : Bool) (chars : List Char) :
    Option (Int × List Char) := do
  let (sign, unsigned) ←
    match chars with
    | '+' :: rest => some ((1 : Int), rest)
    | '-' :: rest => some (-1, rest)
    | c :: rest => if mathMinus ∧ c = Char.ofNat 0x2212 then some (-1, rest) else none
    | [] => none
  let (hours, afterHours) ← readNumber? 2 2 unsigned
  let (minutes, rest) ← readNumber? 2 2 (← separator afterHours)
  if minutes < 60 then return (sign * (hours * 3600 + minutes * 60 : Nat), rest) else none

/-- The letter that stands for universal time, in either case, or an offset. -/
def readZone? (separator : Separator) : List Char → Option (Int × List Char)
  | c :: rest =>
    if c = 'Z' ∨ c = 'z' then some (0, rest) else readOffset? separator true (c :: rest)
  | [] => none

/-- What has been read of a date and a time of day. -/
structure Stamp where
  year : Int
  /-- The month, from one. -/
  month : Nat
  /-- The day of the month, from one. -/
  day : Nat
  /-- The day of the week, from Monday, if it is named. -/
  weekday : Option Nat
  hour : Nat
  minute : Nat
  /-- The second; sixty stands for a leap second. -/
  second : Nat
  nanos : Nat
  ahead : Int

namespace Stamp

/-- The instant of a stamp whose parts are in range and whose day of the week, if named, is that
of its date. -/
def instant? (stamp : Stamp) : Option Instant := do
  let date ← Date.ofParts? stamp.year stamp.month stamp.day
  let rightDay : Bool :=
    match stamp.weekday with
    | some weekday => weekday == weekdayOfDay date.dayNumber
    | none => true
  if rightDay ∧ stamp.hour < 24 ∧ stamp.minute < 60 ∧ stamp.second ≤ 60 ∧
      -86400 < stamp.ahead ∧ stamp.ahead < 86400 then
    let leap := stamp.second = 60
    let second := stamp.hour * 3600 + stamp.minute * 60 + (if leap then 59 else stamp.second)
    let nanos := stamp.nanos + (if leap then nanosPerSecond else 0)
    Instant.ofLocal? date second nanos stamp.ahead
  else none

end Stamp

end ScriptLint.Calendar
