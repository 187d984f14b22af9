import Mathlib.Tactic.Common
import ScriptLint.Proofs.Text.ByteOrder
import ScriptLint.Text.Blank

/-!
# Bytes that are characters

A character below 128 is written as one byte, its number.  The bytes of all other characters are
greater, so a byte below 128 is a whole character wherever it stands in a text.
-/

namespace ScriptLint.Text

theorem length_flatMap_utf8EncodeChar (chars : List Char) :
    (chars.flatMap String.utf8EncodeChar).length = byteLength chars := by
  induction chars with
  | nil => rfl
  | cons c rest ih =>
      rw [List.flatMap_cons, List.length_append, String.length_utf8EncodeChar, ih, byteLength_cons]

theorem length_bytes (text : String) : (bytes text).length = byteLength text.toList := by
  rw [bytes_eq_flatMap, length_flatMap_utf8EncodeChar]

theorem le_of_mem_utf8EncodeChar {c : Char} {byte : UInt8} (large : 128 ≤ c.toNat)
    (member : byte ∈ String.utf8EncodeChar c) : 128 ≤ byte.toNat := by
  have bound := toNat_lt c
  simp only [String.utf8EncodeChar, Char.toNat_val] at member
  generalize c.toNat = number at large bound member
  split_ifs at member
  · omega
  all_goals
    simp only [List.mem_cons, List.not_mem_nil, or_false] at member
    rcases member with rfl | rfl | rfl | rfl
    all_goals
      rw [UInt8.toNat_ofNat', Nat.mod_eq_of_lt (by omega)]
      omega

theorem toNat_toUInt8 {c : Char} (small : c.toNat < 128) : c.toUInt8.toNat = c.toNat := by
  rw [Char.toUInt8, UInt32.toNat_toUInt8, Char.toNat_val, Nat.mod_eq_of_lt (by omega)]

theorem utf8EncodeChar_of_lt {c : Char} (small : c.toNat < 128) :
    String.utf8EncodeChar c = [c.toUInt8] := by
  have fits : c.toNat ≤ 127 := Nat.le_of_lt_succ small
  simp only [String.utf8EncodeChar, Char.toNat_val, if_pos fits]
  rw [← toNat_toUInt8 small, UInt8.ofNat_toNat]

/-- The byte of a character below 128 is found in no other character. -/
theorem not_mem_utf8EncodeChar {c mark : Char} (single : mark.toNat < 128) (different : c ≠ mark) :
    mark.toUInt8 ∉ String.utf8EncodeChar c := by
  intro member
  by_cases small : c.toNat < 128
  · rw [utf8EncodeChar_of_lt small, List.mem_singleton] at member
    apply different
    rw [← Char.toNat_inj, ← toNat_toUInt8 small, ← toNat_toUInt8 single, member]
  · have large := le_of_mem_utf8EncodeChar (Nat.le_of_not_lt small) member
    rw [toNat_toUInt8 single] at large
    omega

end ScriptLint.Text
