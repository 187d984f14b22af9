import Mathlib.Algebra.Order.Field.Rat
import Mathlib.Data.Finset.Max
import Mathlib.Tactic.FieldSimp
import Mathlib.Tactic.Linarith
import ScriptLint.Proofs.Suggestion.BestSuggestions
import ScriptLint.Proofs.Suggestion.LeastEdits

/-!
# Scores of contained names

Over the rational numbers the closeness of two texts is one less their distance over the greater
length, and lies between zero and one because the distance is no greater than that length.  When
one text is a part of the other, the distance is the difference of the lengths, so the closeness is
their ratio, and a quarter is added to it.
-/

namespace ScriptLint

open Text

theorem occursIn_iff {part whole : List Char} : occursIn part whole ↔ part <:+: whole := by
  induction whole with
  | nil => simp [occursIn]
  | cons c rest ih => simp [occursIn, ih, List.infix_cons_iff]

namespace Similarity

variable (left right : List Char)

theorem related_iff :
    related left right ↔ left ≠ [] ∧ right ≠ [] ∧ (right <:+: left ∨ left <:+: right) := by
  simp [related, occursIn_iff, and_assoc]

theorem closeness_rat :
    closeness ℚ left right =
      1 - editDistance left right / (max left.length right.length : ℕ) := by
  rw [closeness]
  split_ifs with empty
  · have leftEmpty : left = [] := by
      rw [← List.length_eq_zero_iff]
      omega
    have rightEmpty : right = [] := by
      rw [← List.length_eq_zero_iff]
      omega
    simp [leftEmpty, rightEmpty]
  · simp

theorem capped_rat (score : ℚ) : capped score = min 1 score := by
  rw [capped, min_comm, min_def, Nat.cast_one]

theorem closeness_comm : closeness ℚ left right = closeness ℚ right left := by
  rw [closeness_rat, closeness_rat, editDistance_comm, max_comm]

theorem closeness_bounds : 0 ≤ closeness ℚ left right ∧ closeness ℚ left right ≤ 1 := by
  have notMore : (editDistance left right : ℚ) ≤ (max left.length right.length : ℕ) := by
    exact_mod_cast editDistance_le_max_length left right
  have ratio := div_le_one_of_le₀ notMore (Nat.cast_nonneg _)
  have positive : (0 : ℚ) ≤ editDistance left right / (max left.length right.length : ℕ) :=
    div_nonneg (Nat.cast_nonneg _) (Nat.cast_nonneg _)
  rw [closeness_rat]
  constructor <;> linarith

theorem closeness_of_isInfix {part whole : List Char} (filled : part ≠ [])
    (occurs : part <:+: whole) : closeness ℚ part whole = part.length / whole.length := by
  have shorter := occurs.length_le
  have positive : (0 : ℚ) < whole.length := by
    exact_mod_cast (List.length_pos_iff.mpr filled).trans_le shorter
  rw [closeness_rat, editDistance_of_isInfix occurs, max_eq_right shorter, Nat.cast_sub shorter]
  field_simp
  exact sub_sub_cancel _ _

theorem ofLower_of_isInfix {part whole : List Char} (filled : part ≠ [])
    (occurs : part <:+: whole) :
    ofLower ℚ part whole = min 1 (part.length / whole.length + 1 / 4 : ℚ) := by
  have wholeFilled : whole ≠ [] := by
    rintro rfl
    exact filled (List.infix_nil.mp occurs)
  have contained := (related_iff part whole).mpr ⟨filled, wholeFilled, .inr occurs⟩
  rw [ofLower, if_pos contained, capped_rat, closeness_of_isInfix filled occurs]
  norm_num

theorem ofLower_comm : ofLower ℚ left right = ofLower ℚ right left := by
  have related_comm : related left right = related right left := by
    rw [Bool.eq_iff_iff, related_iff, related_iff]
    tauto
  rw [ofLower, ofLower, closeness_comm, related_comm]

theorem ofLower_bounds : 0 ≤ ofLower ℚ left right ∧ ofLower ℚ left right ≤ 1 := by
  obtain ⟨positive, notMore⟩ := closeness_bounds left right
  rw [ofLower]
  split_ifs
  · rw [capped_rat]
    refine ⟨le_min zero_le_one ?_, min_le_left _ _⟩
    norm_num
    linarith
  · exact ⟨positive, notMore⟩

theorem ofLower_self (text : List Char) : ofLower ℚ text text = 1 := by
  by_cases empty : text = []
  · rw [empty]
    rfl
  · have positive : (text.length : ℚ) ≠ 0 := by
      exact_mod_cast (List.length_pos_iff.mpr empty).ne'
    rw [ofLower_of_isInfix empty (List.infix_refl text), div_self positive]
    norm_num

end Similarity

/-- The score of two names lies between zero and one, and is one when they differ in case only.  If
one of them contains the other, it is the ratio of their lengths and a quarter more, but no more
than one, so the name is suggested for the other just when this sum reaches the threshold. -/
theorem score_of_contained_name (query name : String) :
    let score := Similarity.score ℚ query name
    let lowerName := lower name.toList
    let lowerQuery := lower query.toList
    IsLeast {count | Edits count lowerName lowerQuery} (editDistance lowerName lowerQuery) ∧
      (∀ candidates limit (threshold : ℚ), ∀ suggestion ∈ suggest candidates query limit threshold,
        suggestion.name = name → suggestion.score = score) ∧
      0 ≤ score ∧ score ≤ 1 ∧ (lowerName = lowerQuery → score = 1) ∧
      ∀ part whole, (part = lowerName ∧ whole = lowerQuery ∨ part = lowerQuery ∧ whole = lowerName) →
        part ≠ [] → part <:+: whole →
        score = min 1 (part.length / whole.length + 1 / 4 : ℚ) ∧
          ∀ candidates limit, ∀ threshold ≤ (1 : ℚ), name ∈ candidates → name ≠ query →
            candidates.length ≤ limit →
            (⟨name, score⟩ ∈ suggest candidates query limit threshold ↔
              threshold ≤ part.length / whole.length + 1 / 4) := by
  intro score lowerName lowerQuery
  have comparable := comparesTotally_of_linearOrder (Set.univ : Set ℚ)
  refine ⟨editDistance_isLeast _ _, ?_, (Similarity.ofLower_bounds _ _).1,
    (Similarity.ofLower_bounds _ _).2, ?_, ?_⟩
  · rintro candidates limit threshold suggestion found rfl
    exact score_of_mem_suggest comparable (fun _ _ _ => Set.mem_univ _) found
  · intro same
    have unfolded : score = Similarity.ofLower ℚ lowerName lowerQuery := rfl
    rw [unfolded, same, Similarity.ofLower_self]
  · intro part whole roles filled occurs
    have scored : score = min 1 (part.length / whole.length + 1 / 4 : ℚ) := by
      rw [← Similarity.ofLower_of_isInfix filled occurs]
      rcases roles with ⟨rfl, rfl⟩ | ⟨rfl, rfl⟩
      · rfl
      · exact Similarity.ofLower_comm lowerName lowerQuery
    refine ⟨scored, fun candidates limit threshold notAbove member other room => ?_⟩
    have reaches : threshold ≤ score ↔ threshold ≤ part.length / whole.length + 1 / 4 := by
      rw [scored, le_min_iff, and_iff_right notAbove]
    rw [mem_suggest_iff comparable threshold (fun _ _ _ => Set.mem_univ _) room, ← reaches]
    simp [namesReaching, member, other, score]

end ScriptLint
