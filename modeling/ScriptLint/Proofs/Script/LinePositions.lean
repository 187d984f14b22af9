import ScriptLint.Diagnostic.Basic
import ScriptLint.LineIndex

/-!
# The order of positions

A later byte offset has a later position: a greater line, or a greater column on the same line.
The first position is that of the beginning.
-/

namespace ScriptLint

open Text

namespace Location

theorem compare_eq_lt_iff {first second : Location} :
    compare first second = .lt ↔
      first.line < second.line ∨ first.line = second.line ∧ first.column < second.column := by
  change (compare first.line second.line).then (compare first.column second.column) = .lt ↔ _
  rw [Ordering.then_eq_lt, Nat.compare_eq_lt, Nat.compare_eq_eq, Nat.compare_eq_lt]

theorem ne_of_compare_eq_lt {first second : Location} (before : compare first second = .lt) :
    first ≠ second := by
  rintro rfl
  rw [compare_eq_lt_iff] at before
  omega

end Location

namespace LineIndex

theorem le_locate_fst (offset line start : Nat) (laterStarts : List Nat) :
    line ≤ (locate offset line start laterStarts).1 := by
  induction laterStarts generalizing line start with
  | nil => exact Nat.le_refl line
  | cons next later ih =>
      rw [locate]
      split
      · exact Nat.le_of_succ_le (ih (line + 1) next)
      · exact Nat.le_refl line

/-- Two offsets behind a line start are on one line with one start, or the first is on an earlier
line. -/
theorem locate_eq_or_lt {first second : Nat} (order : first ≤ second) (line start : Nat)
    (laterStarts : List Nat) (started : start ≤ first) :
    (locate first line start laterStarts = locate second line start laterStarts ∧
        (locate first line start laterStarts).2 ≤ first) ∨
      (locate first line start laterStarts).1 < (locate second line start laterStarts).1 := by
  induction laterStarts generalizing line start with
  | nil => exact Or.inl ⟨rfl, started⟩
  | cons next later ih =>
      rw [locate, locate]
      by_cases firstBehind : next ≤ first
      · rw [if_pos firstBehind, if_pos (Nat.le_trans firstBehind order)]
        exact ih (line + 1) next firstBehind
      · rw [if_neg firstBehind]
        by_cases secondBehind : next ≤ second
        · rw [if_pos secondBehind]
          exact Or.inr (le_locate_fst second (line + 1) next later)
        · rw [if_neg secondBehind]
          exact Or.inl ⟨rfl, started⟩

theorem lineCol_eq (index : LineIndex) (offset : Nat) :
    index.lineCol offset =
      ((locate offset 1 0 index.laterStarts).1,
        offset - (locate offset 1 0 index.laterStarts).2 + 1) :=
  rfl

/-- Positions ascend with their offsets. -/
theorem lineCol_lt {first second : Nat} (index : LineIndex) (order : first < second) :
    (index.lineCol first).1 < (index.lineCol second).1 ∨
      (index.lineCol first).1 = (index.lineCol second).1 ∧
        (index.lineCol first).2 < (index.lineCol second).2 := by
  rw [lineCol_eq, lineCol_eq]
  rcases locate_eq_or_lt (Nat.le_of_lt order) 1 0 index.laterStarts (Nat.zero_le first) with
    ⟨same, bound⟩ | earlier
  · rw [← same]
    exact Or.inr ⟨rfl, by simp only; omega⟩
  · exact Or.inl earlier

theorem lt_of_mem_startsAfter {offset start : Nat} {chars : List Char}
    (member : start ∈ startsAfter offset chars) : offset < start := by
  induction chars generalizing offset with
  | nil => simp [startsAfter] at member
  | cons c rest ih =>
      have advances : offset < offset + c.utf8Size := Nat.lt_add_of_pos_right c.utf8Size_pos
      rw [startsAfter] at member
      split at member
      · rcases List.mem_cons.mp member with rfl | inRest
        · exact advances
        · exact Nat.lt_trans advances (ih inRest)
      · exact Nat.lt_trans advances (ih member)

theorem startsAfter_append (offset : Nat) (front back : List Char) :
    startsAfter offset (front ++ back) =
      startsAfter offset front ++ startsAfter (offset + byteLength front) back := by
  induction front generalizing offset with
  | nil => rfl
  | cons c rest ih =>
      have same : offset + c.utf8Size + byteLength rest = offset + byteLength (c :: rest) := by
        rw [byteLength_cons]
        omega
      rw [List.cons_append, startsAfter, startsAfter, ih, same]
      split <;> rfl

theorem locate_append (offset line start : Nat) (starts : List Nat) {more : List Nat}
    (behind : ∀ next ∈ more, offset < next) :
    locate offset line start (starts ++ more) = locate offset line start starts := by
  induction starts generalizing line start with
  | nil =>
      cases more with
      | nil => rfl
      | cons next later =>
          rw [List.nil_append, locate, locate,
            if_neg (Nat.not_le_of_lt (behind next List.mem_cons_self))]
  | cons next later ih =>
      rw [List.cons_append, locate, locate]
      split
      · exact ih (line + 1) next
      · rfl

/-- What stands behind an offset does not matter for its position. -/
theorem lineCol_ofText_append {front : List Char} {offset : Nat}
    (inside : offset ≤ byteLength front) (back : List Char) :
    (ofText (front ++ back)).lineCol offset = (ofText front).lineCol offset := by
  have behind : ∀ next ∈ startsAfter (0 + byteLength front) back, offset < next := by
    intro next member
    have later := lt_of_mem_startsAfter member
    omega
  rw [lineCol_eq, lineCol_eq, ofText, ofText, startsAfter_append]
  simp only [locate_append offset 1 0 _ behind]

theorem lineCol_ofText_zero (text : List Char) : (ofText text).lineCol 0 = (1, 1) := by
  rw [lineCol_eq, ofText]
  cases starts : startsAfter 0 text with
  | nil => rfl
  | cons next later =>
      have positive : 0 < next := lt_of_mem_startsAfter (by rw [starts]; exact List.mem_cons_self)
      simp only [locate, if_neg (Nat.not_le_of_lt positive)]

end LineIndex

end ScriptLint
