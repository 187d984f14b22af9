import ScriptLint.Calendar.Timestamp

/-!
# Dates in HTTP headers

The `Date` header of a response is read in any of the forms that servers use: the mail form with
its many liberties, a timestamp, the form with a hyphenated date and a year of two digits, and the
form that puts the year last.  The last two are always in universal time.
-/

namespace ScriptLint.Calendar

open Text

/-- The offsets of the zones with names, in hours. -/
def zoneHours : List (String × Int) :=
  [("gmt", 0), ("ut", 0), ("z", 0), ("edt", -4), ("est", -5), ("cdt", -5), ("cst", -6),
    ("mdt", -6), ("mst", -7), ("pdt", -7), ("pst", -8)]

/-- The zone of a mail date: a name, a single letter other than `j`, which says nothing, or an
offset without a colon. -/
def readMailZone? (chars : List Char) : Option (Int × List Char) :=
  let name := chars.takeWhile Char.isAlpha
  let rest := chars.drop name.length
  if name.isEmpty then readOffset? some false chars
  else
    let lowered := name.map Char.toLower
    match zoneHours.lookup (String.ofList lowered) with
    | some hours => some (hours * 3600, rest)
    | none => if lowered.length = 1 ∧ lowered ≠ ['j'] then some (0, rest) else none

/-- The text behind a comment whose opening parenthesis is passed: comments nest, and a backslash
takes the character after it out of the count. -/
def skipComment? (depth : Nat) : List Char → Option (List Char)
  | [] => none
  | '\\' :: _ :: rest => skipComment? depth rest
  | '(' :: rest => skipComment? (depth + 1) rest
  | ')' :: rest =>
    match depth with
    | 0 => some rest
    | outer + 1 => skipComment? outer rest
  | _ :: rest => skipComment? depth rest

/-- The text behind the comments at the front of a text, as many as the bound admits. -/
def skipComments : Nat → List Char → List Char
  | 0, chars => chars
  | most + 1, chars =>
    match trimStart chars with
    | '(' :: rest =>
      match skipComment? 0 rest with
      | some behind => skipComments most behind
      | none => chars
    | _ => chars

/-- The year of a mail date: two digits stand for the years from 1950 to 2049, three digits are
counted from 1900. -/
def readMailYear? (chars : List Char) : Option (Int × List Char) := do
  let (year, rest) ← readLongNumber? 2 chars
  let width := chars.length - rest.length
  if width = 2 then return (((if year < 50 then year + 2000 else year + 1900 : Nat) : Int), rest)
  else if width = 3 then return ((year + 1900 : Nat), rest)
  else return (year, rest)

/-- The day of the week at the front of a mail date, with its comma.  A date may do without. -/
def readMailWeekday? (chars : List Char) : Option (Option Nat × List Char) :=
  match readWeekday? chars with
  | some (weekday, rest) => (readChar? ',' rest).map fun behind => (some weekday, behind)
  | none => some (none, chars)

/-- The seconds of a mail date, which may be left out. -/
def readMailSecond? (chars : List Char) : Option (Nat × List Char) :=
  match readMark? ':' chars with
  | some rest => readNumber? 2 2 rest
  | none => some (0, chars)

/-- The instant of a mail date, such as `Sun, 06 Nov 1994 08:49:37 GMT`. -/
def readMailDate? (chars : List Char) : Option Instant := do
  let (weekday, rest) ← readMailWeekday? (trimStart chars)
  let (day, rest) ← readShort? rest
  let (month, rest) ← readMonth? (← readBlanks? rest)
  let (year, rest) ← readMailYear? (← readBlanks? rest)
  let (hour, rest) ← readNumber? 2 2 (← readBlanks? rest)
  let (minute, rest) ← readNumber? 2 2 (trimStart (← readMark? ':' rest))
  let (second, rest) ← readMailSecond? rest
  let (ahead, rest) ← readMailZone? (← readBlanks? rest)
  if (skipComments rest.length rest).isEmpty then
    Stamp.instant? ⟨year, month, day, weekday, hour, minute, second, 0, ahead⟩
  else none

def readClock? (chars : List Char) : Option ((Nat × Nat × Nat) × List Char) := do
  let (hour, rest) ← readShort? chars
  let (minute, rest) ← readShort? (← readChar? ':' rest)
  let (second, rest) ← readShort? (← readChar? ':' rest)
  return ((hour, minute, second), rest)

/-- The instant of a hyphenated date, such as `Sunday, 06-Nov-94 08:49:37 GMT`.  Its two digits of
the year stand for the years from 1970 to 2069. -/
def readHyphenDate? (chars : List Char) : Option Instant := do
  let (weekday, rest) ← readLongWeekday? chars
  let (day, rest) ← readShort? (← readChar? ',' rest)
  let (month, rest) ← readMonth? (← readChar? '-' rest)
  let (year, rest) ← readShort? (← readChar? '-' rest)
  let ((hour, minute, second), rest) ← readClock? rest
  if trimStart rest = "GMT".toList then
    let fullYear := if year < 70 then year + 2000 else year + 1900
    Stamp.instant? ⟨fullYear, month, day, some weekday, hour, minute, second, 0, 0⟩
  else none

/-- The instant of a date with the year last, such as `Sun Nov  6 08:49:37 1994`. -/
def readYearLastDate? (chars : List Char) : Option Instant := do
  let (weekday, rest) ← readWeekday? chars
  let (month, rest) ← readMonth? (trimStart rest)
  let (day, rest) ← readShort? rest
  let ((hour, minute, second), rest) ← readClock? rest
  let (year, rest) ← readYear? (trimStart rest)
  if rest.isEmpty then
    Stamp.instant? ⟨year, month, day, some weekday, hour, minute, second, 0, 0⟩
  else none

/-- The instant of a date in any of the forms, with blanks around it. -/
def readHttpDate? (text : String) : Option Instant :=
  let chars := trim text.toList
  readMailDate? chars <|> readTimestamp? chars <|> readHyphenDate? chars <|>
    readYearLastDate? chars

end ScriptLint.Calendar
