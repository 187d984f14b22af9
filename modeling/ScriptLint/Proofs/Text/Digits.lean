import Mathlib.Tactic.IntervalCases
import ScriptLint.Text.Blank

/-!
# Decimal digits

The digits of a number are decimal digits, and the first one is a zero only for the number zero,
which has no other.
-/

namespace ScriptLint.Text

theorem isDigit_of_mem_toDigits (n : Nat) :
    ∀ c ∈ Nat.toDigits 10 n, c.isDigit = true := fun _ member =>
  Nat.isDigit_of_mem_toDigits (by decide) (by decide) member

theorem exists_toDigits_eq_cons (n : Nat) :
    ∃ first later, Nat.toDigits 10 n = first :: later ∧ first.isDigit = true := by
  cases digits : Nat.toDigits 10 n with
  | nil => exact absurd digits Nat.toDigits_ne_nil
  | cons first later =>
      exact ⟨first, later, rfl, isDigit_of_mem_toDigits n first (by simp [digits])⟩

theorem ne_of_isDigit {c mark : Char} (digit : c.isDigit = true) (noDigit : mark.isDigit = false) :
    c ≠ mark := by
  rintro rfl
  rw [digit] at noDigit
  cases noDigit

theorem digits_inj {n m : Nat} (same : (toString n).toList = (toString m).toList) : n = m := by
  have digits : ∀ k : Nat, (toString k).toList = Nat.toDigits 10 k := by
    intro k
    simp
  rw [digits, digits] at same
  rw [← Nat.ofDigitChars_ten_toDigits (n := n), same, Nat.ofDigitChars_ten_toDigits]

theorem not_mem_digits {mark : Char} (noDigit : mark.isDigit = false) (n : Nat) :
    mark ∉ (toString n).toList := by
  simp only [Nat.toString_eq_repr, Nat.repr_eq_ofList_toDigits, String.toList_ofList]
  intro member
  exact ne_of_isDigit (isDigit_of_mem_toDigits n mark member) noDigit rfl

theorem isBlank_eq_false_of_isDigit {c : Char} (digit : c.isDigit = true) :
    isBlank c = false := by
  simp only [Char.isDigit, Bool.and_eq_true, decide_eq_true_eq, ge_iff_le,
    UInt32.le_iff_toNat_le] at digit
  have range : 48 ≤ c.toNat ∧ c.toNat ≤ 57 := digit
  simp only [isBlank, Bool.or_eq_false_iff, Bool.and_eq_false_iff, decide_eq_false_iff_not,
    beq_eq_false_iff_ne]
  omega

theorem digitChar_eq_zero_iff {digit : Nat} (small : digit < 10) :
    digit.digitChar = '0' ↔ digit = 0 := by
  interval_cases digit <;> decide

/-- A positive number is not written with a zero at its front. -/
theorem head?_toDigits_ne_zero {n : Nat} (positive : 0 < n) :
    (Nat.toDigits 10 n).head? ≠ some '0' := by
  induction n using Nat.strongRecOn with
  | ind n ih =>
      rw [Nat.toDigits_eq_if (by decide)]
      split
      · rename_i small
        simpa [digitChar_eq_zero_iff small] using Nat.ne_of_gt positive
      · rename_i large
        have tensFirst := ih (n / 10) (by omega) (by omega)
        obtain ⟨first, later, tens, -⟩ := exists_toDigits_eq_cons (n / 10)
        simpa [tens] using tensFirst

/-- No number is written with a zero before other digits. -/
theorem not_superfluous_zero_toDigits (n : Nat) :
    ¬((Nat.toDigits 10 n).length > 1 ∧ (Nat.toDigits 10 n).head? = some '0') := by
  rintro ⟨long, zeroFirst⟩
  rcases Nat.eq_zero_or_pos n with rfl | positive
  · exact absurd long (by decide)
  · exact head?_toDigits_ne_zero positive zeroFirst

end ScriptLint.Text
