import ScriptLint.Docs.Signature
import ScriptLint.Proofs.Script.Anchors

/-!
# The text of a signature

A signature is read at a place where a name stands, a gap of blanks, and an opening parenthesis
that is closed somewhere behind, and at no other place.  What the name and the gap are is settled
by the characters themselves: no blank is part of a name, and a parenthesis is neither.
-/

namespace ScriptLint

open Text

/-- A name as documentation and scripts have it. -/
def IsIdentifier (name : List Char) : Prop :=
  ∃ first later, name = first :: later ∧ isNameStart first ∧ ∀ c ∈ later, isNameChar c

theorem IsIdentifier.isNameChar_of_mem {name : List Char} (named : IsIdentifier name) {c : Char}
    (member : c ∈ name) : isNameChar c := by
  obtain ⟨first, later, rfl, starts, rest⟩ := named
  rcases List.mem_cons.mp member with rfl | inLater
  · exact isNameChar_of_isNameStart starts
  · exact rest c inLater

theorem isWordChar_of_isNameChar {c : Char} (named : isNameChar c) : isWordChar c := by
  have range := toNat_of_isNameChar named
  rw [isWordChar, if_pos (by omega)]
  exact named

theorem isWordChar_eq_false_of_isBlank {c : Char} (blank : isBlank c) : isWordChar c = false := by
  rw [isWordChar]
  split
  · exact isNameChar_eq_false_of_isBlank blank
  · rename_i wide
    have known : c.toNat ∈ [0x85, 0xA0, 0x1680, 0x2000, 0x2001, 0x2002, 0x2003, 0x2004, 0x2005,
        0x2006, 0x2007, 0x2008, 0x2009, 0x200A, 0x2028, 0x2029, 0x202F, 0x205F, 0x3000] := by
      simp only [isBlank, Bool.or_eq_true, Bool.and_eq_true, decide_eq_true_eq, beq_iff_eq]
        at blank
      simp only [List.mem_cons, List.not_mem_nil, or_false]
      omega
    generalize c.toNat = point at known
    revert point
    decide +kernel

/-- What stands before the first of some marks is read up to it. -/
theorem takeWhile_bne_append {mark : Char} {front : List Char} (unmarked : mark ∉ front)
    (back : List Char) : (front ++ mark :: back).takeWhile (· != mark) = front := by
  apply takeWhile_append_of_stops
  · intro c member
    simp only [bne_iff_ne, ne_eq]
    rintro rfl
    exact unmarked member
  · simp

namespace Signature

variable {name gap params : List Char}

theorem atStart?_eq_none {chars : List Char}
    (unopened : ((chars.dropWhile isNameChar).dropWhile isBlank).head? ≠ some '(') :
    atStart? chars = none := by
  cases chars with
  | nil => rfl
  | cons c rest =>
      rw [atStart?]
      split
      · split
        next opened => simp [opened] at unopened
        next => rfl
      · rfl

/-- A name with an opening parenthesis behind it is a signature if the parenthesis is closed. -/
theorem atStart?_written (named : IsIdentifier name) (blank : ∀ c ∈ gap, isBlank c)
    (unclosed : ')' ∉ params) (rest : List Char) :
    atStart? (name ++ (gap ++ '(' :: (params ++ ')' :: rest))) =
      some ⟨String.ofList name, Arity.ofArguments params⟩ := by
  have nameStops : ∀ c ∈ (gap ++ '(' :: (params ++ ')' :: rest)).head?, isNameChar c = false := by
    cases gap with
    | nil => simp; decide
    | cons c gap => simpa using isNameChar_eq_false_of_isBlank (blank c (by simp))
  have gapStops : ∀ c ∈ ('(' :: (params ++ ')' :: rest)).head?, isBlank c = false := by
    simp; decide
  have nameRun := fun c => named.isNameChar_of_mem (c := c)
  obtain ⟨first, later, rfl, starts, -⟩ := named
  rw [List.cons_append, atStart?, ← List.cons_append, if_pos starts,
    dropWhile_append_of_stops nameRun nameStops, takeWhile_append_of_stops nameRun nameStops,
    dropWhile_append_of_stops blank gapStops]
  simp [takeWhile_bne_append unclosed]

theorem exists_of_atStart? {chars : List Char} {found : Signature}
    (read : atStart? chars = some found) :
    ∃ name gap params rest, chars = name ++ (gap ++ '(' :: (params ++ ')' :: rest)) ∧
      IsIdentifier name ∧ (∀ c ∈ gap, isBlank c) ∧ ')' ∉ params ∧
        found = ⟨String.ofList name, Arity.ofArguments params⟩ := by
  unfold atStart? at read
  split at read
  · cases read
  · rename_i first later
    split_ifs at read with starts
    split at read
    next rest opened =>
      split_ifs at read with closed
      cases read
      obtain ⟨params, behind, rfl, unclosed⟩ := List.eq_append_cons_of_mem
        (List.contains_iff_mem.mp closed)
      have gapEq := List.takeWhile_append_dropWhile (p := isBlank)
        (l := (first :: later).dropWhile isNameChar)
      rw [opened] at gapEq
      have named : IsIdentifier ((first :: later).takeWhile isNameChar) := by
        rw [List.takeWhile_cons_of_pos (isNameChar_of_isNameStart starts)]
        exact ⟨first, _, rfl, starts, fun _ => List.mem_takeWhile_imp⟩
      refine ⟨_, ((first :: later).dropWhile isNameChar).takeWhile isBlank, params, behind, ?_, named,
        fun _ => List.mem_takeWhile_imp, unclosed, ?_⟩
      · rw [gapEq, List.takeWhile_append_dropWhile]
      · rw [takeWhile_bne_append unclosed]
    next => cases read

end Signature

end ScriptLint
