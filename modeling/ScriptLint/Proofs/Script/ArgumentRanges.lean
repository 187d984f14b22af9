import ScriptLint.Proofs.Script.ArgumentLists
import ScriptLint.Proofs.Script.CallScan

/-!
# Where the arguments of calls stand

Every call takes a range of its script, from behind its opening parenthesis on.  Two such ranges
are apart, or the later one lies inside the earlier one: the earlier list either closes before the
later one opens or is at least one deeper from there on, and then it cannot close first.
-/

namespace ScriptLint

open Text

/-- An argument list that begins at a byte offset. -/
structure ArgumentRange where
  start : Nat
  arguments : ArgumentList

namespace ArgumentRange

variable {earlier later : ArgumentRange} {text : List Char}

/-- The offset behind what belongs to the call. -/
def stop (range : ArgumentRange) : Nat :=
  range.start + byteLength range.arguments.consumed

/-- The offset of the opening parenthesis. -/
def opening (range : ArgumentRange) : Nat :=
  range.start - 1

/-- The range is that of the list behind a parenthesis of a text. -/
def StandsIn (range : ArgumentRange) (text : List Char) : Prop :=
  ∃ before behind, text = (before ++ ['(']) ++ behind ∧
    range.start = byteLength (before ++ ['(']) ∧ range.arguments = ArgumentList.scan behind

/-- The later parenthesis lies outside the earlier range, and nothing is in both. -/
structure IsBefore (earlier later : ArgumentRange) : Prop where
  stop_le_opening : earlier.stop ≤ later.opening
  stop_le_start : earlier.stop ≤ later.start

/-- The later parenthesis lies inside the earlier range, and so does the whole later range. -/
structure Encloses (earlier later : ArgumentRange) : Prop where
  start_le_opening : earlier.start ≤ later.opening
  opening_lt_stop : later.opening < earlier.stop
  stop_le_stop : later.stop ≤ earlier.stop
  unclosed_of_unclosed : ¬ later.arguments.IsClosed → ¬ earlier.arguments.IsClosed
  stop_lt_stop : later.arguments.IsClosed → earlier.arguments.IsClosed → later.stop < earlier.stop
  arity_le_arity : later.arguments.arity ≤ earlier.arguments.arity

/-- What lies between two parentheses of a text. -/
theorem StandsIn.exists_gap (earlierStands : earlier.StandsIn text)
    (laterStands : later.StandsIn text) (order : earlier.start < later.start) :
    ∃ gap behind, earlier.arguments = ArgumentList.scan (gap ++ '(' :: behind) ∧
      later.arguments = ArgumentList.scan behind ∧
      later.opening = earlier.start + byteLength gap ∧ later.start = later.opening + 1 := by
  obtain ⟨earlierFront, earlierBehind, earlierEq, earlierStart, earlierArguments⟩ := earlierStands
  obtain ⟨laterFront, laterBehind, laterEq, laterStart, laterArguments⟩ := laterStands
  rw [earlierStart, laterStart] at order
  obtain ⟨between, filled, frontEq, behindEq⟩ :=
    exists_between_of_byteLength_lt (earlierEq.symm.trans laterEq) order
  -- What lies between ends in the later parenthesis.
  obtain ⟨gap, last, rfl⟩ := (List.eq_nil_or_concat between).resolve_left filled
  rw [List.concat_eq_append, ← List.append_assoc] at frontEq
  obtain ⟨frontEq, lastEq⟩ := List.append_inj' frontEq rfl
  obtain rfl := List.singleton_inj.mp lastEq
  have parenSize : byteLength ['('] = 1 := by decide
  refine ⟨gap, laterBehind, ?_, laterArguments, ?_, ?_⟩
  · rw [earlierArguments, behindEq]
    simp
  · rw [opening, laterStart, earlierStart, frontEq, byteLength_append _ ['('],
      byteLength_append _ gap, parenSize, Nat.add_sub_cancel]
  · rw [opening, laterStart, byteLength_append, parenSize]
    omega

theorem StandsIn.isBefore_or_encloses (earlierStands : earlier.StandsIn text)
    (laterStands : later.StandsIn text) (order : earlier.start < later.start) :
    earlier.IsBefore later ∨ earlier.Encloses later := by
  obtain ⟨gap, behind, earlierArguments, laterArguments, openingEq, startEq⟩ :=
    earlierStands.exists_gap laterStands order
  cases closed : Arity.closingIndex? 0 0 gap with
  | some index =>
      obtain ⟨rest, gapEq⟩ := ArgumentList.consumed_within_of_closed closed ('(' :: behind)
      rw [← earlierArguments] at gapEq
      have within : earlier.stop ≤ later.opening := by
        rw [stop, openingEq, ← gapEq, byteLength_append]
        omega
      exact Or.inl ⟨within, by omega⟩
  | none =>
      obtain ⟨beyondInner, beyond, innerEq, consumedEq, closes⟩ :=
        ArgumentList.scan_nested closed behind
      rw [← earlierArguments, ← laterArguments] at innerEq consumedEq closes
      have parenSize : '('.utf8Size = 1 := by decide
      have stopEq : earlier.stop = later.stop + byteLength beyond := by
        rw [stop, stop, consumedEq, startEq, openingEq, byteLength_append, byteLength_cons,
          byteLength_append, parenSize]
        omega
      have inside : later.arguments.inner <:+: earlier.arguments.inner :=
        ⟨gap ++ ['('], beyondInner, by simp [innerEq]⟩
      have reaches : later.start ≤ later.stop := Nat.le_add_right _ _
      refine Or.inr ⟨by omega, by omega, by omega, ?_, ?_, ?_⟩
      · exact fun unclosed earlierClosed => unclosed (closes earlierClosed).1
      · intro laterClosed earlierClosed
        have positive := byteLength_pos (closes earlierClosed).2
        omega
      · exact Arity.ofArguments_le_of_infix inside

end ArgumentRange

namespace CallSite

variable {site : CallSite} {text : List Char}

/-- The range of the list behind the anchor that a call site reports. -/
def TakesArguments (site : CallSite) (text : List Char) (range : ArgumentRange) : Prop :=
  ∃ anchor behind, site.ReadsAnchor text range.start anchor behind ∧
    range.arguments = ArgumentList.scan behind

/-- A call site reports one anchor only. -/
theorem ReadsAnchor.unique {stop otherStop : Nat} {anchor otherAnchor : Anchor}
    {behind otherBehind : List Char} (reads : site.ReadsAnchor text stop anchor behind)
    (otherReads : site.ReadsAnchor text otherStop otherAnchor otherBehind) :
    stop = otherStop ∧ behind = otherBehind := by
  obtain ⟨-, rfl⟩ := reads.occurs.unique otherReads.occurs
  obtain ⟨front, textEq, frontStop⟩ := reads.behind_eq
  obtain ⟨otherFront, otherEq, otherStop⟩ := otherReads.behind_eq
  exact ⟨rfl, (eq_of_append_eq_of_byteLength_eq (textEq.symm.trans otherEq)
    (frontStop.trans otherStop.symm)).2⟩

theorem TakesArguments.unique {range other : ArgumentRange} (takes : site.TakesArguments text range)
    (takesOther : site.TakesArguments text other) : range = other := by
  obtain ⟨anchor, behind, reads, arguments⟩ := takes
  obtain ⟨otherAnchor, otherBehind, otherReads, otherArguments⟩ := takesOther
  obtain ⟨startEq, rfl⟩ := reads.unique otherReads
  obtain ⟨start, list⟩ := range
  obtain ⟨otherStart, otherList⟩ := other
  simp_all

theorem TakesArguments.standsIn {range : ArgumentRange} (takes : site.TakesArguments text range) :
    range.StandsIn text := by
  obtain ⟨anchor, behind, reads, arguments⟩ := takes
  obtain ⟨before, rest, textEq, -, stopEq⟩ := reads.occurs.exists_division
  obtain ⟨front, frontEq, frontStop⟩ := reads.behind_eq
  obtain ⟨-, rfl⟩ := eq_of_append_eq_of_byteLength_eq (textEq.symm.trans frontEq)
    (stopEq.trans frontStop.symm)
  rw [Anchor.chars_eq_head_append, ← List.append_assoc] at textEq stopEq
  exact ⟨before ++ anchor.head, rest, textEq, stopEq.symm, arguments⟩

theorem TakesArguments.arity_eq {range : ArgumentRange} (takes : site.TakesArguments text range) :
    site.arity = range.arguments.arity := by
  obtain ⟨anchor, behind, reads, arguments⟩ := takes
  rw [reads.arity_eq, arguments, ArgumentList.arity]

theorem exists_ranges {sites : List CallSite} {stops : List Nat}
    (read : List.Forall₂ (fun site stop => site.ReadsTo text stop) sites stops) :
    ∃ ranges : List ArgumentRange, ranges.map ArgumentRange.start = stops ∧
      List.Forall₂ (fun site range => site.TakesArguments text range) sites ranges := by
  induction read with
  | nil => exact ⟨[], rfl, .nil⟩
  | cons reads _ ih =>
      obtain ⟨anchor, behind, reads⟩ := reads
      obtain ⟨ranges, rfl, takes⟩ := ih
      exact ⟨⟨_, ArgumentList.scan behind⟩ :: ranges, rfl,
        .cons ⟨anchor, behind, reads, rfl⟩ takes⟩

end CallSite

/-- Every call of a script takes one range of arguments, whose count is the one reported.  Of any
two calls either the ranges are apart, or the later range lies inside the earlier one. -/
theorem argument_ranges_are_laminar (text : String) :
    ∃ ranges : List ArgumentRange,
      List.Forall₂ (fun site range => site.TakesArguments text.toList range ∧
        (∀ other, site.TakesArguments text.toList other → other = range) ∧
        site.arity = range.arguments.arity) (scanCalls text) ranges ∧
      ranges.Pairwise fun earlier later => earlier.IsBefore later ∨ earlier.Encloses later := by
  obtain ⟨stops, ascending, -, read⟩ := exists_stops_scanCalls text
  obtain ⟨ranges, rfl, takes⟩ := CallSite.exists_ranges read
  refine ⟨ranges, takes.imp fun site range taken =>
    ⟨taken, fun other takesOther => takesOther.unique taken, taken.arity_eq⟩, ?_⟩
  have stands : ∀ range ∈ ranges, range.StandsIn text.toList := by
    intro range member
    obtain ⟨index, indexLt, rfl⟩ := List.mem_iff_getElem.mp member
    have lengthEq := takes.length_eq
    exact (takes.get (by omega) indexLt).standsIn
  rw [List.pairwise_map] at ascending
  exact ascending.imp_of_mem fun earlierMem laterMem order =>
    (stands _ earlierMem).isBefore_or_encloses (stands _ laterMem) order

end ScriptLint
