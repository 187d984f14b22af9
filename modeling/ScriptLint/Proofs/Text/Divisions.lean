import Mathlib.Data.List.TakeWhile
import Mathlib.Tactic.Common
import ScriptLint.Text.Blank

/-!
# Dividing a text

A text is divided at a byte offset in one way at most, and so it is at the first place of a mark.
The longest run of characters at its front is found wherever a run is followed by a character that
does not continue it.
-/

namespace ScriptLint.Text

/-- Two divisions of a text at the same byte offset are the same division. -/
theorem eq_of_append_eq_of_byteLength_eq {firstFront firstBack secondFront secondBack : List Char}
    (sameText : firstFront ++ firstBack = secondFront ++ secondBack)
    (sameOffset : byteLength firstFront = byteLength secondFront) :
    firstFront = secondFront ∧ firstBack = secondBack := by
  rcases List.append_eq_append_iff.mp sameText with
    ⟨between, secondEq, firstEq⟩ | ⟨between, secondEq, firstEq⟩
  all_goals
    have noBytes : byteLength between = 0 := by
      rw [secondEq, byteLength_append] at sameOffset
      omega
    have nothing : between = [] := by
      by_contra filled
      exact absurd (byteLength_pos filled) (by omega)
    subst nothing
    simp_all

/-- Of two divisions of a text, the later one leaves something between them. -/
theorem exists_between_of_byteLength_lt {firstFront firstBack secondFront secondBack : List Char}
    (sameText : firstFront ++ firstBack = secondFront ++ secondBack)
    (earlier : byteLength firstFront < byteLength secondFront) :
    ∃ between, between ≠ [] ∧ secondFront = firstFront ++ between ∧
      firstBack = between ++ secondBack := by
  rcases List.append_eq_append_iff.mp sameText with
    ⟨between, secondEq, firstEq⟩ | ⟨between, firstEq, secondEq⟩
  · refine ⟨between, ?_, secondEq, firstEq⟩
    rintro rfl
    simp [secondEq] at earlier
  · rw [firstEq, byteLength_append] at earlier
    omega

/-- Of two divisions of a text, the one that is not earlier has the other's front. -/
theorem exists_between_of_byteLength_le {firstFront firstBack secondFront secondBack : List Char}
    (sameText : firstFront ++ firstBack = secondFront ++ secondBack)
    (notLater : byteLength firstFront ≤ byteLength secondFront) :
    ∃ between, secondFront = firstFront ++ between ∧ firstBack = between ++ secondBack := by
  rcases Nat.eq_or_lt_of_le notLater with same | earlier
  · obtain ⟨rfl, rfl⟩ := eq_of_append_eq_of_byteLength_eq sameText same
    exact ⟨[], by simp, by simp⟩
  · obtain ⟨between, -, frontEq, backEq⟩ := exists_between_of_byteLength_lt sameText earlier
    exact ⟨between, frontEq, backEq⟩

/-- A text is divided at the first place of a mark in one way. -/
theorem eq_of_append_mark_eq {mark : Char} {firstFront firstBack secondFront secondBack : List Char}
    (unmarked : mark ∉ firstFront) (unmarkedToo : mark ∉ secondFront)
    (sameText : firstFront ++ mark :: firstBack = secondFront ++ mark :: secondBack) :
    firstFront = secondFront ∧ firstBack = secondBack := by
  rcases List.append_eq_append_iff.mp sameText with
    ⟨between, rfl, backEq⟩ | ⟨between, rfl, backEq⟩
  all_goals
    cases between with
    | nil => simp_all
    | cons c between => simp_all

section Runs

variable {p : Char → Bool} {run back : List Char}

/-- A run that is not continued behind it is the longest one at the front. -/
theorem takeWhile_append_of_stops (holds : ∀ c ∈ run, p c)
    (stops : ∀ c ∈ back.head?, p c = false) : (run ++ back).takeWhile p = run := by
  rw [List.takeWhile_append_of_pos holds]
  cases back with
  | nil => simp
  | cons c rest => simp [stops c rfl]

theorem dropWhile_eq_self_of_stops (stops : ∀ c ∈ back.head?, p c = false) :
    back.dropWhile p = back := by
  cases back with
  | nil => rfl
  | cons c rest => simp [stops c rfl]

theorem head?_dropWhile (p : Char → Bool) (text : List Char) :
    ∀ c ∈ (text.dropWhile p).head?, p c = false := by
  intro c first
  have stops := List.head?_dropWhile_not p text
  rw [Option.mem_def.mp first] at stops
  exact stops

/-- What is left behind the longest run at the front. -/
theorem dropWhile_append_of_stops (holds : ∀ c ∈ run, p c)
    (stops : ∀ c ∈ back.head?, p c = false) : (run ++ back).dropWhile p = back := by
  rw [List.dropWhile_append_of_pos holds, dropWhile_eq_self_of_stops stops]

end Runs

/-- The blanks around a text that has none at its own ends are trimmed away. -/
theorem trim_append_of_solid {before text behind : List Char}
    (blankBefore : ∀ c ∈ before, isBlank c) (blankBehind : ∀ c ∈ behind, isBlank c)
    (filled : text ≠ [])
    (solidFront : ∀ c ∈ text.head?, isBlank c = false)
    (solidBack : ∀ c ∈ text.getLast?, isBlank c = false) :
    trim (before ++ text ++ behind) = text := by
  have front : trimStart (before ++ (text ++ behind)) = text ++ behind := by
    refine dropWhile_append_of_stops blankBefore ?_
    obtain ⟨first, later, rfl⟩ := List.exists_cons_of_ne_nil filled
    exact solidFront
  have back : (behind.reverse ++ text.reverse).dropWhile isBlank = text.reverse := by
    refine dropWhile_append_of_stops (fun c member => blankBehind c (by simpa using member)) ?_
    rwa [List.head?_reverse]
  rw [List.append_assoc, trim, front, trimEnd, List.reverse_append, back, List.reverse_reverse]

end ScriptLint.Text
