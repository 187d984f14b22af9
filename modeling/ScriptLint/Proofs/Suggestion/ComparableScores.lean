import Mathlib.Data.Prod.Lex
import Mathlib.Data.Set.Defs
import ScriptLint.Suggestion

/-!
# Numbers that compare

The order of suggestions is only as good as the comparison of their scores.  In a linear order any
two numbers compare.  Of binary floating-point numbers any two compare unless one is not a number:
each of the others has a place, by its sign and class, then by its exponent, then by its mantissa,
and they are compared by their places.  The two zeros share a place, so comparison does not tell
them apart.
-/

namespace ScriptLint

/-- Whether any two numbers of a set compare, and comparison carries over from one to the next.  It
need not tell different numbers apart. -/
structure ComparesTotally {α : Type} [LE α] (numbers : Set α) : Prop where
  total : ∀ a ∈ numbers, ∀ b ∈ numbers, a ≤ b ∨ b ≤ a
  trans : ∀ a ∈ numbers, ∀ b ∈ numbers, ∀ c ∈ numbers, a ≤ b → b ≤ c → a ≤ c

theorem comparesTotally_of_linearOrder {α : Type} [LinearOrder α] (numbers : Set α) :
    ComparesTotally numbers where
  total a _ b _ := le_total a b
  trans _ _ _ _ _ _ := le_trans

theorem ComparesTotally.of_place {α β : Type} [LE α] [LinearOrder β] {numbers : Set α}
    (place : α → β) (compared : ∀ a ∈ numbers, ∀ b ∈ numbers, a ≤ b ↔ place a ≤ place b) :
    ComparesTotally numbers where
  total a aMem b bMem := by
    rw [compared a aMem b bMem, compared b bMem a aMem]
    exact le_total _ _
  trans a aMem b bMem c cMem first second := by
    rw [compared a aMem b bMem] at first
    rw [compared b bMem c cMem] at second
    rw [compared a aMem c cMem]
    exact first.trans second

namespace FloatPlace

open Float.Model

/-- The place of a floating-point number, by class, exponent and mantissa. -/
def ofUnpacked : UnpackedFloat → Int ×ₗ Int ×ₗ Int
  | .infinity .negative => toLex (-2, toLex (0, 0))
  | .finite .negative mantissa exponent _ => toLex (-1, toLex (-exponent, -mantissa))
  | .zero _ => toLex (0, toLex (0, 0))
  | .finite .positive mantissa exponent _ => toLex (1, toLex (exponent, mantissa))
  | .infinity .positive => toLex (2, toLex (0, 0))
  | .notANumber => toLex (0, toLex (0, 0))

theorem isLE_compare_then (a b : Int) (m n : Nat) :
    ((compare a b).then (compare m n)).isLE ↔ a < b ∨ a = b ∧ m ≤ n := by
  rcases lt_trichotomy a b with less | rfl | more
  · simp [compare_lt_iff_lt.mpr less, less]
  · simp [Nat.isLE_compare]
  · simp [compare_gt_iff_gt.mpr more, more.ne', more.le]

theorem isGE_compare_then (a b : Int) (m n : Nat) :
    ((compare a b).then (compare m n)).isGE ↔ b < a ∨ a = b ∧ n ≤ m := by
  rcases lt_trichotomy a b with less | rfl | more
  · simp [compare_lt_iff_lt.mpr less, less.ne, less.le]
  · simp [Nat.isGE_compare]
  · simp [compare_gt_iff_gt.mpr more, more]

theorem le_iff {a b : UnpackedFloat} (aNumber : a.isNaN = false) (bNumber : b.isNaN = false) :
    a.le b ↔ ofUnpacked a ≤ ofUnpacked b := by
  cases a with
  | notANumber => cases aNumber
  | infinity aSign | zero aSign =>
      cases b with
      | notANumber => cases bNumber
      | infinity bSign | zero bSign => cases aSign <;> cases bSign <;> decide
      | finite bSign =>
          cases aSign <;> cases bSign <;>
            dsimp only [UnpackedFloat.le, UnpackedFloat.compare, ofUnpacked] <;>
            simp [Prod.Lex.toLex_le_toLex]
  | finite aSign aMantissa aExponent =>
      cases b with
      | notANumber => cases bNumber
      | infinity bSign | zero bSign =>
          cases aSign <;> cases bSign <;>
            dsimp only [UnpackedFloat.le, UnpackedFloat.compare, ofUnpacked] <;>
            simp [Prod.Lex.toLex_le_toLex]
      | finite bSign bMantissa bExponent =>
          -- Among negative numbers the greater exponent and mantissa come first.
          cases aSign <;> cases bSign <;>
            dsimp only [UnpackedFloat.le, UnpackedFloat.compare, ofUnpacked] <;>
            simp [Prod.Lex.toLex_le_toLex, isLE_compare_then, isGE_compare_then]

end FloatPlace

theorem comparesTotally_float : ComparesTotally {number : Float | number.isNaN = false} := by
  refine .of_place (fun number => FloatPlace.ofUnpacked number.toModel.unpack) ?_
  intro a aNumber b bNumber
  rw [← FloatPlace.le_iff aNumber bNumber]
  exact decide_eq_true_iff

end ScriptLint
