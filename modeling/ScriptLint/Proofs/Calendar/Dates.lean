import Mathlib.Algebra.Ring.Nat
import Mathlib.Data.List.GetD
import ScriptLint.Calendar.Date

/-!
# Days and their dates

Every day has a date that the calendar has, and the day on which that date falls is the day.
A date of a kept day can therefore be put together again from its parts.
-/

namespace ScriptLint.Calendar

/-- A year lasts as long as its months together. -/
theorem yearStart_succ (year : Int) :
    yearStart (year + 1) = yearStart year + ((monthLengths year).sum : Nat) := by
  have leap : isLeapYear year = true ↔ year % 4 = 0 ∧ (year % 100 ≠ 0 ∨ year % 400 = 0) := by
    simp [isLeapYear]
  by_cases isLeap : isLeapYear year = true
  · have divisible := leap.mp isLeap
    simp only [yearStart, monthLengths, isLeap, if_true, List.sum_cons, List.sum_nil]
    omega
  · have indivisible := mt leap.mpr isLeap
    simp only [yearStart, monthLengths, isLeap, if_false, Bool.false_eq_true, List.sum_cons,
      List.sum_nil]
    omega

namespace Date

/-- Where a day of a year falls: in one of the months, as one of its days. -/
theorem splitDay_spec {lengths : List Nat} (month : Nat) {remaining : Nat}
    (within : remaining < lengths.sum) :
    ∃ index dayOfMonth, splitDay month remaining lengths = (month + index, dayOfMonth + 1) ∧
      index < lengths.length ∧ dayOfMonth < lengths.getD index 0 ∧
      (lengths.take index).sum + dayOfMonth = remaining := by
  induction lengths generalizing month remaining with
  | nil => exact absurd within (by simp)
  | cons length later ih =>
      rw [splitDay]
      split
      · rename_i inMonth
        exact ⟨0, remaining, rfl, by simp, by simpa using inMonth, by simp⟩
      · rename_i behind
        rw [List.sum_cons] at within
        obtain ⟨index, dayOfMonth, splitEq, indexLt, dayLt, sumEq⟩ :=
          ih (month + 1) (show remaining - length < later.sum by omega)
        refine ⟨index + 1, dayOfMonth, ?_, by simpa using indexLt, by simpa using dayLt, ?_⟩
        · rw [splitEq]
          congr 1
          omega
        · rw [List.take_succ_cons, List.sum_cons]
          omega

/-- The date of a day has the year of the day and a month and a day that the year has. -/
theorem ofDayNumber_spec (day : Int) :
    ∃ index dayOfMonth, ofDayNumber day = ⟨yearOfDay day, index + 1, dayOfMonth + 1⟩ ∧
      index < 12 ∧ dayOfMonth < (monthLengths (yearOfDay day)).getD index 0 ∧
      yearStart (yearOfDay day) + (((monthLengths (yearOfDay day)).take index).sum : Nat) +
        dayOfMonth = day := by
  have begun := yearStart_yearOfDay_le day
  have lasting := lt_yearStart_yearOfDay day
  rw [yearStart_succ] at lasting
  obtain ⟨index, dayOfMonth, splitEq, indexLt, dayLt, sumEq⟩ :=
    splitDay_spec 1 (show (day - yearStart (yearOfDay day)).toNat <
      (monthLengths (yearOfDay day)).sum by omega)
  refine ⟨index, dayOfMonth, ?_, indexLt, dayLt, by omega⟩
  rw [ofDayNumber]
  simp only [splitEq, Nat.add_comm 1]

/-- The date of a day falls on the day. -/
theorem dayNumber_ofDayNumber (day : Int) : (ofDayNumber day).dayNumber = day := by
  obtain ⟨index, dayOfMonth, dateEq, -, -, dayEq⟩ := ofDayNumber_spec day
  rw [dateEq, dayNumber]
  simp only [Nat.add_sub_cancel, ← List.sum_eq_foldl]
  omega

/-- The date of a kept day is put together from its parts. -/
theorem ofParts?_ofDayNumber {day : Int} (kept : IsKeptDay day) :
    ofParts? (ofDayNumber day).year (ofDayNumber day).month (ofDayNumber day).day =
      some (ofDayNumber day) := by
  obtain ⟨index, dayOfMonth, dateEq, indexLt, dayLt, -⟩ := ofDayNumber_spec day
  rw [dateEq, ofParts?, if_pos]
  simp only [Nat.add_sub_cancel]
  exact ⟨kept.1, kept.2, by omega, by omega, by omega, dayLt⟩

theorem le_of_mem_monthLengths {year : Int} : ∀ length ∈ monthLengths year, length ≤ 31 := by
  intro length member
  simp only [monthLengths, List.mem_cons, List.not_mem_nil, or_false] at member
  split at member <;> omega

/-- The month and the day of a date need two digits at most. -/
theorem ofDayNumber_lt (day : Int) :
    (ofDayNumber day).month < 100 ∧ (ofDayNumber day).day < 100 := by
  obtain ⟨index, dayOfMonth, dateEq, indexLt, dayLt, -⟩ := ofDayNumber_spec day
  have short := le_of_mem_monthLengths _ (List.getElem_mem (l := monthLengths (yearOfDay day))
    (n := index) indexLt)
  rw [List.getD_eq_getElem _ _ indexLt] at dayLt
  rw [dateEq]
  dsimp only
  omega

end Date

end ScriptLint.Calendar
