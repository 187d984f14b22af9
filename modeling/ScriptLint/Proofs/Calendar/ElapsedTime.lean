import Mathlib.Algebra.Order.Ring.Int
import ScriptLint.Calendar.Instant

/-!
# The time between two instants

Without leap seconds the time that has passed is the difference of two positions on one line, so it
grows with the later instant.  A leap second is counted only as far as the times of day tell that it
has passed, and then the time between two instants may be off by one second.

Whatever the instants, the time between them is a small number of milliseconds.
-/

namespace ScriptLint.Calendar

theorem Date.IsKeptDay.bounds {day : Int} (kept : IsKeptDay day) :
    -96465292 ≤ day ∧ day < 95026237 := by
  obtain ⟨notTooEarly, notTooLate⟩ := kept
  have begins := yearStart_monotone notTooEarly
  have ends := yearStart_monotone (Int.add_le_add_right notTooLate 1)
  have firstStart : yearStart firstYear = -96465292 := by decide
  have lastEnd : yearStart (lastYear + 1) = 95026237 := by decide
  have := yearStart_yearOfDay_le day
  have := lt_yearStart_yearOfDay day
  omega

namespace Instant

/-- Whether an instant lies in a leap second. -/
def IsLeap (instant : Instant) : Prop :=
  nanosPerSecond ≤ instant.nanos

/-- Instants are ordered by the day, then by the second, then by the nanosecond. -/
instance : LE Instant where
  le earlier later :=
    earlier.day < later.day ∨ earlier.day = later.day ∧
      (earlier.second < later.second ∨
        earlier.second = later.second ∧ earlier.nanos ≤ later.nanos)

/-- The nanoseconds since the epoch, with no leap second counted but the one of the instant. -/
def sinceEpoch (instant : Instant) : Int :=
  (instant.day * 86400 + instant.second) * nanosPerSecond + instant.nanos

variable {earlier later now date : Instant}

theorem le_iff :
    earlier ≤ later ↔ earlier.day < later.day ∨ earlier.day = later.day ∧
      (earlier.second < later.second ∨
        earlier.second = later.second ∧ earlier.nanos ≤ later.nanos) :=
  Iff.rfl

/-- The time between two instants, with a leap second of one of them that the other has passed. -/
theorem nanosSince_cases (later earlier : Instant) :
    ∃ leap : Int,
      later.nanosSince earlier =
        later.sinceEpoch - earlier.sinceEpoch + leap * nanosPerSecond ∧
      (leap = 0 ∨ leap = 1 ∧ earlier.IsLeap ∧ earlier.second < later.second ∨
        leap = -1 ∧ later.IsLeap ∧ later.second < earlier.second) := by
  unfold nanosSince sinceEpoch IsLeap nanosPerSecond
  dsimp only
  split_ifs with passed ahead
  · exact ⟨1, by omega, by omega⟩
  · exact ⟨-1, by omega, by omega⟩
  · exact ⟨0, by omega, by omega⟩

theorem nanosSince_of_not_isLeap (laterRegular : ¬later.IsLeap) (earlierRegular : ¬earlier.IsLeap) :
    later.nanosSince earlier = later.sinceEpoch - earlier.sinceEpoch := by
  obtain ⟨leap, nanosEq, rfl | ⟨-, isLeap, -⟩ | ⟨-, isLeap, -⟩⟩ := nanosSince_cases later earlier
  · omega
  · exact absurd isLeap earlierRegular
  · exact absurd isLeap laterRegular

theorem sinceEpoch_le_of_le (regular : ¬earlier.IsLeap) (le : earlier ≤ later) :
    earlier.sinceEpoch ≤ later.sinceEpoch := by
  have := earlier.secondInDay
  rw [le_iff] at le
  unfold IsLeap nanosPerSecond at regular
  unfold sinceEpoch nanosPerSecond
  omega

/-- Time does not run back between instants outside of leap seconds. -/
theorem millisSince_le_of_le (earlierRegular : ¬earlier.IsLeap) (laterRegular : ¬later.IsLeap)
    (dateRegular : ¬date.IsLeap) (le : earlier ≤ later) :
    earlier.millisSince date ≤ later.millisSince date := by
  apply Int.tdiv_le_tdiv (by decide)
  rw [nanosSince_of_not_isLeap earlierRegular dateRegular,
    nanosSince_of_not_isLeap laterRegular dateRegular]
  have := sinceEpoch_le_of_le earlierRegular le
  omega

/-- A leap second within a day is counted on the rest of this day, and no longer on the next. -/
example :
    let leapSecond : Instant := ⟨0, 43199, 1000000000, by decide, by decide, by decide⟩
    let evening : Instant := ⟨0, 86399, 500000000, by decide, by decide, by decide⟩
    let nextDay : Instant := ⟨1, 0, 0, by decide, by decide, by decide⟩
    nextDay.millisSince leapSecond < evening.millisSince leapSecond := by
  decide

/-- An instant lies in the leap second at the end of a day, and another one in the second that
follows it.  This second does not count as later by the leap second. -/
structure IsLeapBefore (now date : Instant) : Prop where
  isLeap : now.IsLeap
  lastSecond : now.second = 86399
  nextDay : date.day = now.day + 1
  firstSecond : date.second = 0

theorem nanosSince_lt_of_le (le : now ≤ date) : now.nanosSince date < nanosPerSecond := by
  obtain ⟨leap, nanosEq, counted⟩ := nanosSince_cases now date
  have := now.secondInDay
  have := now.nanosInSecond
  have := date.nanosInSecond
  rw [nanosEq]
  rw [le_iff] at le
  unfold IsLeap nanosPerSecond at *
  unfold sinceEpoch nanosPerSecond
  omega

theorem nanosSince_nonpos_of_le (apart : ¬now.IsLeapBefore date) (le : now ≤ date) :
    now.nanosSince date ≤ 0 := by
  have outside : ¬(now.IsLeap ∧ now.second = 86399 ∧ date.day = now.day + 1 ∧ date.second = 0) :=
    fun ⟨isLeap, lastSecond, nextDay, firstSecond⟩ =>
      apart ⟨isLeap, lastSecond, nextDay, firstSecond⟩
  have := now.secondInDay
  have := now.nanosInSecond
  have := date.nanosInSecond
  rw [le_iff] at le
  unfold nanosSince
  unfold IsLeap nanosPerSecond at *
  dsimp only
  split_ifs <;> omega

theorem millisSince_lt_of_le (le : now ≤ date) : now.millisSince date < 1000 := by
  have short : now.nanosSince date ≤ 999999999 := Int.le_of_lt_add_one (nanosSince_lt_of_le le)
  have cut : now.millisSince date ≤ Int.tdiv 999999999 1000000 :=
    Int.tdiv_le_tdiv (by decide) short
  exact Int.lt_of_le_of_lt cut (by decide)

theorem millisSince_nonpos_of_le (apart : ¬now.IsLeapBefore date) (le : now ≤ date) :
    now.millisSince date ≤ 0 := by
  have cut : now.millisSince date ≤ Int.tdiv 0 1000000 :=
    Int.tdiv_le_tdiv (by decide) (nanosSince_nonpos_of_le apart le)
  exact Int.le_trans cut (by decide)

theorem nanosSince_bounds (later earlier : Instant) :
    -2 ^ 54 * 1000000 ≤ later.nanosSince earlier ∧
      later.nanosSince earlier ≤ 2 ^ 54 * 1000000 := by
  obtain ⟨leap, nanosEq, counted⟩ := nanosSince_cases later earlier
  have laterDay := later.dayKept.bounds
  have earlierDay := earlier.dayKept.bounds
  have := later.secondInDay
  have := earlier.secondInDay
  have := later.nanosInSecond
  have := earlier.nanosInSecond
  rw [nanosEq]
  unfold sinceEpoch
  unfold nanosPerSecond at *
  omega

/-- The time between any two instants is far from the ends of the numbers of eight bytes. -/
theorem millisSince_bounds (later earlier : Instant) :
    -2 ^ 54 ≤ later.millisSince earlier ∧ later.millisSince earlier ≤ 2 ^ 54 := by
  obtain ⟨lower, upper⟩ := nanosSince_bounds later earlier
  exact ⟨Int.tdiv_le_tdiv (by decide) lower, Int.tdiv_le_tdiv (by decide) upper⟩

end Instant

end ScriptLint.Calendar
