import ScriptLint.Calendar.Date

/-!
# Instants

A point in universal time to the nanosecond.  A leap second is kept as the second before it with a
thousand million nanoseconds or more, so a stamp that names one is not lost.
-/

namespace ScriptLint.Calendar

def nanosPerSecond : Nat :=
  1000000000

/-- A point in universal time. -/
structure Instant where
  day : Int
  second : Nat
  /-- The nanosecond of the second; from a thousand million on, that of a following leap second. -/
  nanos : Nat
  dayKept : Date.IsKeptDay day
  /-- The second is one of the day. -/
  secondInDay : second < 86400
  /-- A leap second follows the last second of a minute only. -/
  nanosInSecond : nanos < nanosPerSecond ∨ second % 60 = 59 ∧ nanos < 2 * nanosPerSecond
deriving DecidableEq, Repr

namespace Instant

def epoch : Instant :=
  ⟨0, 0, 0, by decide, by decide, by decide⟩

/-- The instant a number of milliseconds after the epoch.  A day in a year that is not kept counts
for the nearest kept day. -/
def ofMillis (millis : Int) : Instant where
  day := Date.nearestKeptDay (millis / 86400000)
  second := (millis % 86400000 / 1000).toNat
  nanos := (millis % 1000).toNat * 1000000
  dayKept := Date.isKeptDay_nearestKeptDay _
  secondInDay := by omega
  nanosInSecond := by
    unfold nanosPerSecond
    omega

/-- The instant of a local time of day, given how many seconds the local time is ahead, if the
year of the day in universal time is kept and the second has the nanosecond. -/
def ofLocal? (date : Date) (second nanos : Nat) (ahead : Int) : Option Instant :=
  let universal : Int := second - ahead
  let day := date.dayNumber + universal / 86400
  let secondOfDay := (universal % 86400).toNat
  if kept : Date.IsKeptDay day ∧
      (nanos < nanosPerSecond ∨ secondOfDay % 60 = 59 ∧ nanos < 2 * nanosPerSecond) then
    some ⟨day, secondOfDay, nanos, kept.1, by omega, kept.2⟩
  else none

/-- The nanoseconds from an earlier to a later instant.  A leap second is counted when the time of
day of the other instant has passed it. -/
def nanosSince (later earlier : Instant) : Int :=
  let leap : Int :=
    if later.second > earlier.second ∧ earlier.nanos ≥ nanosPerSecond then 1
    else if later.second < earlier.second ∧ later.nanos ≥ nanosPerSecond then -1
    else 0
  ((later.day - earlier.day) * 86400 + ((later.second : Int) - earlier.second) + leap) *
    nanosPerSecond + ((later.nanos : Int) - earlier.nanos)

/-- The whole milliseconds from an earlier to a later instant, cut off toward zero. -/
def millisSince (later earlier : Instant) : Int :=
  Int.tdiv (later.nanosSince earlier) 1000000

end Instant

end ScriptLint.Calendar
