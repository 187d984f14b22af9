import Mathlib.Tactic.Common

/-!
# Texts in the order of their bytes

Texts are ordered by the numbers of their characters.  In the bytes that they are written with this
order is kept, since a longer encoding begins with a greater byte, and encodings of one length are
numbers to the base 64, with the greatest digit first.
-/

namespace ScriptLint.Text

/-- The bytes that a text is written with. -/
def bytes (text : String) : List UInt8 :=
  text.toUTF8.data.toList

theorem bytes_eq_flatMap (text : String) :
    bytes text = text.toList.flatMap String.utf8EncodeChar := by
  rw [bytes, String.toUTF8_eq_toByteArray, ← String.utf8Encode_toList, List.utf8Encode,
    List.toList_data_toByteArray]

theorem toNat_lt (c : Char) : c.toNat < 1114112 := by
  rcases c.valid with low | high
  · exact Nat.lt_trans low (by decide)
  · exact high.2

theorem ofNat_eq_ofNat_iff {first second : Nat} (firstLt : first < UInt8.size)
    (secondLt : second < UInt8.size) : UInt8.ofNat first = UInt8.ofNat second ↔ first = second := by
  rw [← UInt8.toNat_inj, UInt8.toNat_ofNat', UInt8.toNat_ofNat', Nat.mod_eq_of_lt firstLt,
    Nat.mod_eq_of_lt secondLt]

/-- Of two characters the smaller one is written with the smaller bytes, and none of the encodings
begins with the other, so it does not matter what comes behind them. -/
theorem utf8EncodeChar_append_lt {c d : Char} (lt : c < d) (rest others : List UInt8) :
    String.utf8EncodeChar c ++ rest < String.utf8EncodeChar d ++ others := by
  have smaller : c.toNat < d.toNat := lt
  have bound := toNat_lt d
  have digits (n : Nat) : n / 4096 = n / 64 / 64 ∧ n / 262144 = n / 64 / 64 / 64 := by omega
  simp only [String.utf8EncodeChar, Char.toNat_val]
  generalize c.toNat = first at smaller
  generalize d.toNat = second at smaller bound
  split_ifs
  -- The encoding of the smaller character is not the longer one.
  all_goals try omega
  all_goals
    simp (disch := simp only [UInt8.size]; omega) only [List.cons_append, List.nil_append,
      List.cons_lt_cons_iff, UInt8.ofNat_lt_iff_lt, ofNat_eq_ofNat_iff, digits]
    omega

theorem flatMap_utf8EncodeChar_lt {first second : List Char} (lt : first < second) :
    first.flatMap String.utf8EncodeChar < second.flatMap String.utf8EncodeChar := by
  induction lt with
  | @nil c rest =>
      rw [List.flatMap_nil, List.flatMap_cons]
      cases encoded : String.utf8EncodeChar c with
      | nil => exact absurd encoded String.utf8EncodeChar_ne_nil
      | cons byte more => exact List.nil_lt_cons _ _
  | cons _ ih =>
      rw [List.flatMap_cons, List.flatMap_cons]
      exact List.append_left_lt ih
  | rel smaller =>
      rw [List.flatMap_cons, List.flatMap_cons]
      exact utf8EncodeChar_append_lt smaller _ _

/-- Texts are ordered by their bytes as they are by their characters. -/
theorem bytes_lt_bytes {first second : String} (lt : first < second) :
    bytes first < bytes second := by
  rw [bytes_eq_flatMap, bytes_eq_flatMap]
  exact flatMap_utf8EncodeChar_lt lt

end ScriptLint.Text
