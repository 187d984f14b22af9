/-!
# Calendar dates

Dates of the Gregorian calendar, carried on before its introduction and before the year one, and
the number of the day on which a date falls.  Day zero is the first of January 1970, a Thursday.
-/

namespace ScriptLint.Calendar

def yearStart (year : Int) : Int :=
  365 * (year - 1) + (year - 1) / 4 - (year - 1) / 100 + (year - 1) / 400 - 719162

theorem yearStart_monotone {earlier later : Int} (inOrder : earlier ≤ later) :
    yearStart earlier ≤ yearStart later := by
  unfold yearStart
  omega

def isLeapYear (year : Int) : Bool :=
  year % 4 == 0 && (year % 100 != 0 || year % 400 == 0)

def monthLengths (year : Int) : List Nat :=
  [31, if isLeapYear year then 29 else 28, 31, 30, 31, 30, 31, 31, 30, 31, 30, 31]

/-- A year, a month and a day, the last two counted from one. -/
structure Date where
  /-- The year; the year before the year one is zero. -/
  year : Int
  month : Nat
  day : Nat
deriving DecidableEq, Repr

def firstYear : Int :=
  -262143

def lastYear : Int :=
  262142

namespace Date

/-- The date with the given parts, if the calendar has it and its year is kept. -/
def ofParts? (year : Int) (month day : Nat) : Option Date :=
  if firstYear ≤ year ∧ year ≤ lastYear ∧ 1 ≤ month ∧ month ≤ 12 ∧ 1 ≤ day ∧
      day ≤ (monthLengths year).getD (month - 1) 0 then
    some ⟨year, month, day⟩
  else none

def dayNumber (date : Date) : Int :=
  let earlierMonths := (monthLengths date.year).take (date.month - 1)
  yearStart date.year + (earlierMonths.foldl (· + ·) 0 : Nat) + ((date.day : Int) - 1)

/-- The month and the day of the month of a day of a year, given the lengths of the months from
the given one on. -/
def splitDay (month remaining : Nat) : List Nat → Nat × Nat
  | [] => (month, remaining + 1)
  | length :: later =>
    if remaining < length then (month, remaining + 1)
    else splitDay (month + 1) (remaining - length) later

/-- The year in which a day falls: an estimate by the mean length of years, put right by a year
where it misses. -/
def yearOfDay (day : Int) : Int :=
  let estimate := (day + 719162) * 400 / 146097 + 1
  if day < yearStart estimate then estimate - 1
  else if yearStart (estimate + 1) ≤ day then estimate + 1
  else estimate

theorem yearStart_yearOfDay_le (day : Int) : yearStart (yearOfDay day) ≤ day := by
  unfold yearOfDay yearStart
  dsimp only
  split
  · omega
  · split <;> omega

theorem lt_yearStart_yearOfDay (day : Int) : day < yearStart (yearOfDay day + 1) := by
  unfold yearOfDay yearStart
  dsimp only
  split
  · omega
  · split <;> omega

def IsKeptDay (day : Int) : Prop :=
  firstYear ≤ yearOfDay day ∧ yearOfDay day ≤ lastYear

instance (day : Int) : Decidable (IsKeptDay day) :=
  inferInstanceAs (Decidable (_ ∧ _))

def nearestKeptDay (day : Int) : Int :=
  max (yearStart firstYear) (min day (yearStart (lastYear + 1) - 1))

theorem isKeptDay_nearestKeptDay (day : Int) : IsKeptDay (nearestKeptDay day) := by
  have begins := yearStart_yearOfDay_le (nearestKeptDay day)
  have ends := lt_yearStart_yearOfDay (nearestKeptDay day)
  have first : yearStart firstYear = -96465292 := by decide
  have last : yearStart (lastYear + 1) = 95026237 := by decide
  constructor
  · refine Int.not_lt.mp fun tooEarly => ?_
    have := yearStart_monotone (Int.add_one_le_of_lt tooEarly)
    grind [nearestKeptDay]
  · refine Int.not_lt.mp fun tooLate => ?_
    have := yearStart_monotone (Int.add_one_le_of_lt tooLate)
    grind [nearestKeptDay]

def ofDayNumber (day : Int) : Date :=
  let year := yearOfDay day
  let (month, dayOfMonth) := splitDay 1 (day - yearStart year).toNat (monthLengths year)
  ⟨year, month, dayOfMonth⟩

end Date

/-- The number of a day in its week, Monday being zero. -/
def weekdayOfDay (day : Int) : Nat :=
  ((day + 3) % 7).toNat

end ScriptLint.Calendar
