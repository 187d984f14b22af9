import ScriptLint.Cache.Headers
import ScriptLint.Proofs.Calendar.Timestamps

/-!
# The lifetime in a cache-control value

A lifetime is the number behind the first `max-age=`.  A number that is written behind some
`max-age=` is this lifetime, or the value has an earlier one, and then the number does not matter.
-/

namespace ScriptLint.ValidationHeaders

open Calendar Text

/-- Headers whose `cache-control` value gives a number of seconds between other directives. -/
def withMaxAge (headers : ValidationHeaders) (before : String) (seconds : Nat) (behind : String) :
    ValidationHeaders :=
  { headers with cacheControl := some (before ++ "max-age=" ++ toString seconds ++ behind) }

variable {word text behind : List Char}

theorem behindWord?_append (written : word ≠ []) (rest : List Char) :
    behindWord? word (word ++ rest) = some rest := by
  cases word with
  | nil => exact absurd rfl written
  | cons c word =>
      have found : c :: word <+: c :: (word ++ rest) := List.prefix_append (c :: word) rest
      rw [List.cons_append, behindWord?, if_pos (List.isPrefixOf_iff_prefix.mpr found),
        ← List.cons_append, List.drop_left]

/-- What is behind the first occurrence of a word is told by the text up to the end of any
occurrence, whatever comes after it. -/
theorem exists_behindWord?_append (ends : word <:+ text) :
    ∃ left, left <:+ text ∧ ∀ rest, behindWord? word (text ++ rest) = some (left ++ rest) := by
  induction text with
  | nil =>
      obtain rfl := List.suffix_nil.mp ends
      refine ⟨[], List.nil_suffix, fun rest => ?_⟩
      cases rest <;> rfl
  | cons c text ih =>
      by_cases first : word <+: c :: text
      · obtain ⟨left, textEq⟩ := first
        refine ⟨left, ⟨word, textEq⟩, fun rest => ?_⟩
        have longerEq : c :: (text ++ rest) = word ++ (left ++ rest) := by
          rw [← List.cons_append, ← textEq, List.append_assoc]
        have found : word <+: c :: (text ++ rest) := ⟨left ++ rest, longerEq.symm⟩
        rw [List.cons_append, behindWord?, if_pos (List.isPrefixOf_iff_prefix.mpr found), longerEq,
          List.drop_left]
      · have later : word <:+ text := by
          rcases List.suffix_cons_iff.mp ends with rfl | later
          · exact absurd List.prefix_rfl first
          · exact later
        obtain ⟨left, suffix, found⟩ := ih later
        refine ⟨left, suffix.trans (List.suffix_cons c text), fun rest => ?_⟩
        -- The text is as long as the word, so whether it begins with it is not left to the rest.
        have notFirst : ¬word <+: c :: (text ++ rest) := by
          intro longer
          apply first
          exact List.prefix_of_prefix_length_le longer (List.prefix_append (c :: text) rest)
            ends.length_le
        rw [List.cons_append, behindWord?, if_neg (mt List.isPrefixOf_iff_prefix.mp notFirst)]
        exact found rest

theorem maxAgeOf?_of_behind {value : String}
    (found : behindWord? "max-age=".toList value.toList = some behind) :
    maxAgeOf? value =
      if behind.takeWhile Char.isDigit = [] ∨
        2 ^ 64 ≤ decimalValue (behind.takeWhile Char.isDigit) then .none
      else some (decimalValue (behind.takeWhile Char.isDigit)) := by
  rw [maxAgeOf?, found]
  simp

theorem takeWhile_digits (n : Nat) {rest : List Char} (ends : EndsDigits rest) :
    ((toString n).toList ++ rest).takeWhile Char.isDigit = (toString n).toList := by
  apply takeWhile_append_of_stops
  · intro c member
    exact isDigit_of_mem_padded 0 n c (by simpa [padded] using member)
  · exact ends

theorem decimalValue_digits (n : Nat) : decimalValue (toString n).toList = n := by
  simpa [padded] using decimalValue_padded 0 n

/-- A number at the front of what is behind `max-age=` is read if it fits into eight bytes. -/
theorem maxAgeOf?_of_number {value : String} {n : Nat} (ends : EndsDigits behind)
    (found : behindWord? "max-age=".toList value.toList = some ((toString n).toList ++ behind)) :
    maxAgeOf? value = if n < 2 ^ 64 then some n else .none := by
  have written : (toString n).toList ≠ [] := by
    simp [Nat.toDigits_ne_nil]
  rw [maxAgeOf?_of_behind found, takeWhile_digits n ends, decimalValue_digits]
  simp only [written, false_or]
  split_ifs with long short short
  · omega
  · rfl
  · rfl
  · omega

theorem takeWhile_append_of_endsDigits {rest : List Char} (ends : EndsDigits rest)
    (front : List Char) : (front ++ rest).takeWhile Char.isDigit = front.takeWhile Char.isDigit := by
  induction front with
  | nil =>
      cases rest with
      | nil => rfl
      | cons c rest => simp [ends c rfl]
  | cons c front ih => simp only [List.cons_append, List.takeWhile_cons, ih]

theorem takeWhile_append_sign (front rest : List Char) :
    (front ++ ['='] ++ rest).takeWhile Char.isDigit = front.takeWhile Char.isDigit := by
  rw [List.append_assoc]
  exact takeWhile_append_of_endsDigits (endsDigits_cons (by decide) rest) front

/-- A number behind `max-age=` is read, or another one is, and then this number does not matter. -/
theorem maxAgeOf?_written (before : String) {behind : String} (ends : EndsDigits behind.toList) :
    (∀ n : Nat, maxAgeOf? (before ++ "max-age=" ++ toString n ++ behind) =
        if n < 2 ^ 64 then some n else .none) ∨
      ∀ n m : Nat, maxAgeOf? (before ++ "max-age=" ++ toString n ++ behind) =
        maxAgeOf? (before ++ "max-age=" ++ toString m ++ behind) := by
  obtain ⟨left, suffix, found⟩ :=
    exists_behindWord?_append (List.suffix_append before.toList "max-age=".toList)
  have foundIn : ∀ n : Nat, behindWord? "max-age=".toList
      (before ++ "max-age=" ++ toString n ++ behind).toList =
        some (left ++ ((toString n).toList ++ behind.toList)) := by
    intro n
    rw [← found]
    simp only [String.toList_append, List.append_assoc]
  have signLast : "max-age=".toList = "max-age".toList ++ ['='] := by decide
  rw [signLast, ← List.append_assoc, List.suffix_concat_iff] at suffix
  rcases suffix with rfl | ⟨front, rfl, -⟩
  · left
    intro n
    exact maxAgeOf?_of_number ends (foundIn n)
  · right
    intro n m
    rw [maxAgeOf?_of_behind (foundIn n), maxAgeOf?_of_behind (foundIn m), takeWhile_append_sign,
      takeWhile_append_sign]

/-- A value that begins with the number is read as this number. -/
theorem maxAgeOf?_first {behind : String} (ends : EndsDigits behind.toList) (n : Nat) :
    maxAgeOf? ("max-age=" ++ toString n ++ behind) = if n < 2 ^ 64 then some n else .none := by
  apply maxAgeOf?_of_number ends
  rw [String.toList_append, String.toList_append, List.append_assoc]
  exact behindWord?_append (by decide) _

theorem lt_of_maxAge? {headers : ValidationHeaders} {lifetime : Nat}
    (read : headers.maxAge? = some lifetime) : lifetime < 2 ^ 64 := by
  obtain ⟨value, -, valueRead⟩ := Option.bind_eq_some_iff.mp read
  cases found : behindWord? "max-age=".toList value.toList with
  | none =>
      rw [maxAgeOf?, found] at valueRead
      cases valueRead
  | some behind =>
      rw [maxAgeOf?_of_behind found] at valueRead
      split_ifs at valueRead with unread
      cases valueRead
      omega

end ScriptLint.ValidationHeaders
