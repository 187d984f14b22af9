import ScriptLint.Proofs.Text.Divisions
import ScriptLint.Script.Call

/-!
# The shape of anchors

An anchor is well formed when its three pieces are made of the right characters.  The shape alone
decides how a text that begins with an anchor is divided, so reading one off the front of a text is
the inverse of writing it there.

The only parenthesis of an anchor is its last character.  Hence two anchors of one text that end at
different places cannot overlap, although several may end at the same place.
-/

namespace ScriptLint

open Text

/-- The code points of the characters of names. -/
theorem toNat_of_isNameChar {c : Char} (named : isNameChar c) :
    (48 ≤ c.toNat ∧ c.toNat ≤ 57) ∨ (65 ≤ c.toNat ∧ c.toNat ≤ 90) ∨
      c.toNat = 95 ∨ (97 ≤ c.toNat ∧ c.toNat ≤ 122) := by
  delta isNameChar Char.isAlphanum Char.isAlpha Char.isUpper Char.isLower Char.isDigit at named
  simp only [Bool.or_eq_true, Bool.and_eq_true, decide_eq_true_eq, beq_iff_eq, ge_iff_le,
    UInt32.le_iff_toNat_le] at named
  rcases named with ((upper | lower) | digit) | rfl
  · exact Or.inr (Or.inl upper)
  · exact Or.inr (Or.inr (Or.inr lower))
  · exact Or.inl digit
  · exact Or.inr (Or.inr (Or.inl rfl))

theorem isBlank_eq_false_of_isNameChar {c : Char} (named : isNameChar c) : isBlank c = false := by
  have range := toNat_of_isNameChar named
  simp only [isBlank, Bool.or_eq_false_iff, Bool.and_eq_false_iff, decide_eq_false_iff_not,
    beq_eq_false_iff_ne]
  omega

theorem isNameChar_eq_false_of_isBlank {c : Char} (blank : isBlank c) : isNameChar c = false := by
  by_contra named
  rw [isBlank_eq_false_of_isNameChar (by simpa using named)] at blank
  cases blank

theorem isNameChar_of_isNameStart {c : Char} (starts : isNameStart c) : isNameChar c := by
  simp only [isNameStart, isNameChar, Char.isAlphanum, Bool.or_eq_true] at starts ⊢
  tauto

theorem isNameChar_of_isUpper {c : Char} (upper : c.isUpper) : isNameChar c := by
  delta isNameChar Char.isAlphanum Char.isAlpha
  simp only [upper, Bool.true_or]

/-- Whether a character has no place in front of the parenthesis of an anchor. -/
def StandsApart (c : Char) : Prop :=
  isBlank c = false ∧ c ≠ '.' ∧ isNameChar c = false
deriving Decidable

namespace Anchor

/-- An anchor whose pieces are made of the right characters. -/
structure IsWellFormed (anchor : Anchor) : Prop where
  /-- The class name is `GS`, a capital, and further characters of names. -/
  classShape : ∃ capital later, anchor.className = 'G' :: 'S' :: capital :: later ∧
    capital.isUpper ∧ ∀ c ∈ later, isNameChar c
  /-- The method name is a character that may begin a name, and further characters of names. -/
  methodShape : ∃ first later, anchor.methodName = first :: later ∧
    isNameStart first ∧ ∀ c ∈ later, isNameChar c
  /-- The gap is made of blanks. -/
  gapShape : ∀ c ∈ anchor.gap, isBlank c

theorem isWellFormed_of_parse? {text rest : List Char} {anchor : Anchor}
    (parsed : parse? text = some (anchor, rest)) : anchor.IsWellFormed := by
  unfold parse? at parsed
  split at parsed
  next c afterCapital =>
    split_ifs at parsed with capital
    split at parsed
    next m afterStart _ =>
      split_ifs at parsed with starts
      split at parsed
      next =>
        cases parsed
        exact ⟨⟨c, _, rfl, capital, fun _ => List.mem_takeWhile_imp⟩,
          ⟨m, _, rfl, starts, fun _ => List.mem_takeWhile_imp⟩, fun _ => List.mem_takeWhile_imp⟩
      next => cases parsed
    next => cases parsed
  next => cases parsed

/-- A well-formed anchor is read off the front of every text that begins with it. -/
theorem parse?_chars_append {anchor : Anchor} (wellFormed : anchor.IsWellFormed)
    (rest : List Char) : parse? (anchor.chars ++ rest) = some (anchor, rest) := by
  obtain ⟨⟨capital, classLater, classEq, isCapital, classNamed⟩,
    ⟨first, methodLater, methodEq, starts, methodNamed⟩, blanks⟩ := wellFormed
  obtain ⟨className, methodName, gap⟩ := anchor
  simp only at classEq methodEq blanks
  subst classEq methodEq
  have classStops : ∀ c ∈ ('.' :: first :: (methodLater ++ (gap ++ '(' :: rest))).head?,
      isNameChar c = false := by
    simp; decide
  have methodStops : ∀ c ∈ (gap ++ '(' :: rest).head?, isNameChar c = false := by
    cases gap with
    | nil => simp; decide
    | cons c gap => simpa using isNameChar_eq_false_of_isBlank (blanks c (by simp))
  have gapStops : ∀ c ∈ ('(' :: rest).head?, isBlank c = false := by
    simp; decide
  simp only [chars, List.cons_append, List.append_assoc, List.nil_append, parse?, isCapital,
    if_true, takeWhile_append_of_stops classNamed classStops,
    dropWhile_append_of_stops classNamed classStops, starts,
    takeWhile_append_of_stops methodNamed methodStops,
    dropWhile_append_of_stops methodNamed methodStops,
    takeWhile_append_of_stops blanks gapStops, dropWhile_append_of_stops blanks gapStops]

/-- Reading an anchor finds exactly the well-formed ones. -/
theorem parse?_eq_some_iff {text rest : List Char} {anchor : Anchor} :
    parse? text = some (anchor, rest) ↔ anchor.IsWellFormed ∧ text = anchor.chars ++ rest := by
  constructor
  · intro parsed
    exact ⟨isWellFormed_of_parse? parsed, (chars_append_of_parse? parsed).symm⟩
  · rintro ⟨wellFormed, rfl⟩
    exact parse?_chars_append wellFormed rest

/-- An anchor as it stands in a text from one byte offset up to another. -/
structure OccursAt (anchor : Anchor) (text : List Char) (start stop : Nat) : Prop where
  /-- The anchor has the right shape. -/
  wellFormed : anchor.IsWellFormed
  /-- Its characters stand there. -/
  stands : ∃ before behind, text = before ++ (anchor.chars ++ behind) ∧
    byteLength before = start ∧ start + byteLength anchor.chars = stop

/-- What stands before the parenthesis of an anchor. -/
def head (anchor : Anchor) : List Char :=
  anchor.className ++ '.' :: anchor.methodName ++ anchor.gap

theorem chars_eq_head_append (anchor : Anchor) : anchor.chars = anchor.head ++ ['('] := by
  simp [chars, head]

theorem chars_ne_nil (anchor : Anchor) : anchor.chars ≠ [] := by
  simp [chars]

/-- The head of an anchor is made of characters of names, a dot and blanks. -/
theorem not_mem_head_of_standsApart {anchor : Anchor} (wellFormed : anchor.IsWellFormed) {c : Char}
    (apart : StandsApart c) : c ∉ anchor.head := by
  obtain ⟨⟨capital, classLater, classEq, isCapital, classNamed⟩,
    ⟨first, methodLater, methodEq, starts, methodNamed⟩, blanks⟩ := wellFormed
  obtain ⟨unblank, undotted, unnamed⟩ := apart
  have nameless : ¬ isNameChar c := by simp [unnamed]
  intro member
  simp only [head, classEq, methodEq, List.cons_append, List.append_assoc, List.mem_cons,
    List.mem_append] at member
  rcases member with rfl | rfl | rfl | inClass | rfl | rfl | inMethod | inGap
  · exact nameless (by decide)
  · exact nameless (by decide)
  · exact nameless (isNameChar_of_isUpper isCapital)
  · exact nameless (classNamed c inClass)
  · exact undotted rfl
  · exact nameless (isNameChar_of_isNameStart starts)
  · exact nameless (methodNamed c inMethod)
  · simp [blanks c inGap] at unblank

/-- The parenthesis of an anchor is its only one. -/
theorem not_mem_head {anchor : Anchor} (wellFormed : anchor.IsWellFormed) :
    '(' ∉ anchor.head :=
  not_mem_head_of_standsApart wellFormed (by decide)

namespace OccursAt

variable {first second anchor : Anchor} {text : List Char}
variable {firstStart firstStop secondStart secondStop start stop : Nat}

theorem start_lt_stop (occurs : anchor.OccursAt text start stop) : start < stop := by
  obtain ⟨-, before, behind, -, -, stopEq⟩ := occurs
  have positive := byteLength_pos anchor.chars_ne_nil
  omega

/-- The text up to the end of an occurrence and the text behind it. -/
theorem exists_division (occurs : anchor.OccursAt text start stop) :
    ∃ before behind, text = (before ++ anchor.chars) ++ behind ∧ byteLength before = start ∧
      byteLength (before ++ anchor.chars) = stop := by
  obtain ⟨-, before, behind, textEq, startEq, stopEq⟩ := occurs
  exact ⟨before, behind, by simpa using textEq, startEq, by simp [startEq, stopEq]⟩

/-- At most one anchor begins at an offset of a text. -/
theorem unique (occurs : first.OccursAt text start firstStop)
    (otherOccurs : second.OccursAt text start secondStop) :
    first = second ∧ firstStop = secondStop := by
  obtain ⟨wellFormed, before, behind, textEq, startEq, rfl⟩ := occurs
  obtain ⟨otherWellFormed, otherBefore, otherBehind, otherEq, otherStart, rfl⟩ := otherOccurs
  obtain ⟨-, sameRest⟩ := eq_of_append_eq_of_byteLength_eq (textEq.symm.trans otherEq)
    (startEq.trans otherStart.symm)
  have parsed := parse?_chars_append wellFormed behind
  rw [sameRest, parse?_chars_append otherWellFormed, Option.some.injEq, Prod.mk.injEq] at parsed
  obtain ⟨rfl, -⟩ := parsed
  exact ⟨rfl, rfl⟩

/-- Occurrences in the rest of a text are the occurrences in the whole text that begin there. -/
theorem append_iff (passed : List Char) {rest : List Char} :
    anchor.OccursAt (passed ++ rest) (byteLength passed + start) (byteLength passed + stop) ↔
      anchor.OccursAt rest start stop := by
  constructor
  · rintro ⟨wellFormed, before, behind, textEq, startEq, stopEq⟩
    rcases Nat.lt_or_ge (byteLength before) (byteLength passed + 1) with small | large
    · have same : byteLength passed = byteLength before := by omega
      obtain ⟨rfl, restEq⟩ := eq_of_append_eq_of_byteLength_eq textEq same
      exact ⟨wellFormed, [], behind, restEq, by simp; omega, by omega⟩
    · obtain ⟨between, -, beforeEq, restEq⟩ := exists_between_of_byteLength_lt textEq large
      refine ⟨wellFormed, between, behind, restEq, ?_, by omega⟩
      rw [beforeEq, byteLength_append] at startEq
      omega
  · rintro ⟨wellFormed, before, behind, rfl, startEq, stopEq⟩
    exact ⟨wellFormed, passed ++ before, behind, by simp, by simp [startEq], by omega⟩

/-- Anchors that end at different places do not overlap: the parenthesis of the earlier one would
stand inside the head of the later one. -/
theorem stop_le_start (earlier : first.OccursAt text firstStart firstStop)
    (later : second.OccursAt text secondStart secondStop) (stops : firstStop < secondStop) :
    firstStop ≤ secondStart := by
  obtain ⟨firstBefore, firstBehind, firstEq, -, firstStopEq⟩ := earlier.exists_division
  obtain ⟨secondBefore, secondBehind, secondEq, rfl, secondStopEq⟩ := later.exists_division
  by_contra overlaps
  rw [← firstStopEq, ← secondStopEq] at stops
  obtain ⟨between, filled, secondFrontEq, -⟩ :=
    exists_between_of_byteLength_lt (firstEq.symm.trans secondEq) stops
  -- What lies between the two ends has the later parenthesis as its last character.
  obtain ⟨inner, last, rfl⟩ := (List.eq_nil_or_concat between).resolve_left filled
  rw [chars_eq_head_append, chars_eq_head_append, List.concat_eq_append, ← List.append_assoc,
    ← List.append_assoc, ← List.append_assoc] at secondFrontEq
  have headEq : secondBefore ++ second.head = firstBefore ++ first.head ++ ['('] ++ inner :=
    List.append_inj_left' secondFrontEq rfl
  have startLt : byteLength secondBefore < byteLength (firstBefore ++ first.head ++ ['(']) := by
    rw [← firstStopEq, chars_eq_head_append, ← List.append_assoc] at overlaps
    exact Nat.lt_of_not_le overlaps
  -- So the earlier parenthesis stands in the head of the later anchor.
  obtain ⟨straddling, straddles, frontEq, headTail⟩ :=
    exists_between_of_byteLength_lt headEq startLt
  obtain ⟨ahead, paren, rfl⟩ := (List.eq_nil_or_concat straddling).resolve_left straddles
  rw [List.concat_eq_append, ← List.append_assoc] at frontEq
  have parenEq : '(' = paren := List.singleton_inj.mp (List.append_inj_right' frontEq rfl)
  apply not_mem_head later.wellFormed
  rw [headTail, ← parenEq]
  simp

end OccursAt

end Anchor

end ScriptLint
