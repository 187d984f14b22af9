import Mathlib.Data.List.Sort
import ScriptLint.Proofs.Script.ArgumentRanges
import ScriptLint.Proofs.Script.LinePositions

/-!
# Scripts in two parts

An anchor that stands in both parts of a script has the last character of the first part in its
head.  Where that character cannot stand in a head, the anchors of the script are those of its
parts, and so are its calls.  Only an argument list that the first part leaves open goes on into
the second one.
-/

namespace ScriptLint

open Text

/-- Whether a text ends in a character that has no place in the head of an anchor, or is empty. -/
def EndsApart (front : List Char) : Prop :=
  ∀ c ∈ front.getLast?, StandsApart c

namespace Anchor.OccursAt

variable {anchor : Anchor} {front back : List Char} {start stop : Nat}

theorem append (occurs : anchor.OccursAt front start stop) (back : List Char) :
    anchor.OccursAt (front ++ back) start stop := by
  obtain ⟨wellFormed, before, behind, rfl, startEq, stopEq⟩ := occurs
  exact ⟨wellFormed, before, behind ++ back, by simp, startEq, stopEq⟩

theorem stop_le (occurs : anchor.OccursAt front start stop) : stop ≤ byteLength front := by
  obtain ⟨before, behind, rfl, -, rfl⟩ := occurs.exists_division
  rw [byteLength_append _ behind]
  exact Nat.le_add_right _ _

theorem of_append_of_stop_le (occurs : anchor.OccursAt (front ++ back) start stop)
    (inside : stop ≤ byteLength front) : anchor.OccursAt front start stop := by
  obtain ⟨before, behind, textEq, startEq, stopEq⟩ := occurs.exists_division
  rw [← stopEq] at inside
  obtain ⟨between, frontEq, -⟩ := exists_between_of_byteLength_le textEq.symm inside
  refine ⟨occurs.wellFormed, before, between, by simp [frontEq], startEq, ?_⟩
  rw [← stopEq, byteLength_append, startEq]

/-- No anchor stands across the end of the first part. -/
theorem stop_le_or_le_start (apart : EndsApart front)
    (occurs : anchor.OccursAt (front ++ back) start stop) :
    stop ≤ byteLength front ∨ byteLength front ≤ start := by
  by_contra across
  obtain ⟨stopBehind, startBefore⟩ := not_or.mp across
  obtain ⟨wellFormed, before, behind, textEq, rfl, rfl⟩ := occurs
  obtain ⟨inFront, filled, frontEq, restEq⟩ :=
    exists_between_of_byteLength_lt textEq.symm (Nat.lt_of_not_le startBefore)
  rw [frontEq, byteLength_append] at stopBehind
  obtain ⟨inBack, backFilled, charsEq, -⟩ :=
    exists_between_of_byteLength_lt restEq.symm (by omega)
  -- The parenthesis is in the second part, so the first part ends inside the head.
  obtain ⟨more, paren, rfl⟩ := (List.eq_nil_or_concat inBack).resolve_left backFilled
  rw [chars_eq_head_append, List.concat_eq_append, ← List.append_assoc] at charsEq
  have headEq : anchor.head = inFront ++ more := List.append_inj_left' charsEq rfl
  obtain ⟨ahead, last, rfl⟩ := (List.eq_nil_or_concat inFront).resolve_left filled
  have inHead : last ∈ anchor.head := by simp [headEq]
  exact not_mem_head_of_standsApart wellFormed (apart last (by simp [frontEq])) inHead

theorem append_iff_of_endsApart (apart : EndsApart front) :
    anchor.OccursAt (front ++ back) start stop ↔
      anchor.OccursAt front start stop ∨
        ∃ later laterStop, start = byteLength front + later ∧
          stop = byteLength front + laterStop ∧ anchor.OccursAt back later laterStop := by
  constructor
  · intro occurs
    rcases occurs.stop_le_or_le_start apart with inside | behind
    · exact Or.inl (occurs.of_append_of_stop_le inside)
    · obtain ⟨later, rfl⟩ := Nat.exists_eq_add_of_le behind
      have order := occurs.start_lt_stop
      have stopBehind : byteLength front ≤ stop := by omega
      obtain ⟨laterStop, rfl⟩ := Nat.exists_eq_add_of_le stopBehind
      exact Or.inr ⟨later, laterStop, rfl, rfl, (append_iff front).mp occurs⟩
  · rintro (occurs | ⟨later, laterStop, rfl, rfl, occurs⟩)
    · exact occurs.append back
    · exact (append_iff front).mpr occurs

end Anchor.OccursAt

namespace CallSite

variable {site whole : CallSite} {front back : List Char} {stop : Nat}

/-- The same call at another offset of a text with other lines. -/
def movedTo (lines : LineIndex) (offset : Nat) (site : CallSite) : CallSite :=
  { site with
    line := (lines.lineCol offset).1
    column := (lines.lineCol offset).2
    offset }

/-- A call of the first part of a script as the call of the whole script.  The number of arguments
may be another one only if the first part does not close the list. -/
structure KeptAs (site : CallSite) (front : List Char) (whole : CallSite) : Prop where
  className_eq : whole.className = site.className
  methodName_eq : whole.methodName = site.methodName
  offset_eq : whole.offset = site.offset
  line_eq : whole.line = site.line
  column_eq : whole.column = site.column
  arity_eq : ∃ range, site.TakesArguments front range ∧
    (range.arguments.IsClosed → whole.arity = site.arity)

/-- Of two readings of one place, the texts behind it are the same up to what is behind both. -/
theorem behind_eq_append {anchor wholeAnchor : Anchor} {behind wholeBehind : List Char}
    (reads : site.ReadsAnchor front stop anchor behind)
    (wholeReads : whole.ReadsAnchor (front ++ back) stop wholeAnchor wholeBehind) :
    wholeBehind = behind ++ back := by
  obtain ⟨passed, rfl, passedStop⟩ := reads.behind_eq
  obtain ⟨wholePassed, wholeEq, wholeStop⟩ := wholeReads.behind_eq
  rw [List.append_assoc] at wholeEq
  exact (eq_of_append_eq_of_byteLength_eq wholeEq (passedStop.trans wholeStop.symm)).2.symm

theorem ReadsTo.keptAs (reads : site.ReadsTo front stop)
    (wholeReads : whole.ReadsTo (front ++ back) stop) : site.KeptAs front whole := by
  obtain ⟨anchor, behind, reads⟩ := reads
  obtain ⟨wholeAnchor, wholeBehind, wholeReads⟩ := wholeReads
  have stopInside := reads.occurs.stop_le
  have sameOffset : whole.offset = site.offset := by
    have notLater := wholeReads.leftmost _ _ (reads.occurs.append back)
    have notEarlier := reads.leftmost _ _ (wholeReads.occurs.of_append_of_stop_le stopInside)
    omega
  have wholeOccurs := wholeReads.occurs.of_append_of_stop_le stopInside
  rw [sameOffset] at wholeOccurs
  obtain ⟨rfl, -⟩ := reads.occurs.unique wholeOccurs
  have offsetInside : site.offset ≤ byteLength front :=
    Nat.le_trans (Nat.le_of_lt reads.occurs.start_lt_stop) stopInside
  have samePosition : (whole.line, whole.column) = (site.line, site.column) := by
    rw [wholeReads.position_eq, reads.position_eq, sameOffset,
      LineIndex.lineCol_ofText_append offsetInside]
  rw [Prod.mk.injEq] at samePosition
  refine ⟨?_, ?_, sameOffset, samePosition.1, samePosition.2,
    ⟨stop, ArgumentList.scan behind⟩, ⟨anchor, behind, reads, rfl⟩, fun closed => ?_⟩
  · rw [wholeReads.className_eq, reads.className_eq]
  · rw [wholeReads.methodName_eq, reads.methodName_eq]
  · rw [wholeReads.arity_eq, reads.arity_eq, behind_eq_append reads wholeReads,
      ArgumentList.scan_append_of_isClosed closed]

theorem ReadsTo.eq_movedTo (apart : EndsApart front) (reads : site.ReadsTo back stop)
    (wholeReads : whole.ReadsTo (front ++ back) (byteLength front + stop)) :
    whole = site.movedTo (LineIndex.ofText (front ++ back)) (byteLength front + site.offset) := by
  obtain ⟨anchor, behind, reads⟩ := reads
  obtain ⟨wholeAnchor, wholeBehind, wholeReads⟩ := wholeReads
  have occursBehind := (Anchor.OccursAt.append_iff front).mpr reads.occurs
  have sameOffset : whole.offset = byteLength front + site.offset := by
    have notLater := wholeReads.leftmost _ _ occursBehind
    have order := reads.occurs.start_lt_stop
    rcases wholeReads.occurs.stop_le_or_le_start apart with inside | begins
    · omega
    · obtain ⟨later, offsetEq⟩ := Nat.exists_eq_add_of_le begins
      have wholeOccurs := wholeReads.occurs
      rw [offsetEq, Anchor.OccursAt.append_iff] at wholeOccurs
      have notEarlier := reads.leftmost _ _ wholeOccurs
      omega
  have wholeOccurs := wholeReads.occurs
  rw [sameOffset] at wholeOccurs
  obtain ⟨rfl, -⟩ := occursBehind.unique wholeOccurs
  have sameBehind : wholeBehind = behind := by
    obtain ⟨passed, rfl, passedStop⟩ := reads.behind_eq
    obtain ⟨wholePassed, wholeEq, wholeStop⟩ := wholeReads.behind_eq
    rw [← List.append_assoc] at wholeEq
    refine (eq_of_append_eq_of_byteLength_eq wholeEq ?_).2.symm
    rw [byteLength_append, passedStop, wholeStop]
  have position := wholeReads.position_eq
  obtain ⟨className, methodName, arity, line, column, offset⟩ := whole
  simp only at sameOffset position
  simp only [movedTo, CallSite.mk.injEq]
  subst sameOffset
  refine ⟨?_, ?_, ?_, congrArg Prod.fst position, congrArg Prod.snd position, rfl⟩
  · rw [reads.className_eq, ← wholeReads.className_eq]
  · rw [reads.methodName_eq, ← wholeReads.methodName_eq]
  · rw [reads.arity_eq, ← sameBehind, ← wholeReads.arity_eq]

end CallSite

/-- The ends of all anchors in a text, in ascending order. -/
structure AnchorStops (text : List Char) (stops : List Nat) : Prop where
  ascending : stops.Pairwise (· < ·)
  mem_iff : ∀ stop, stop ∈ stops ↔ ∃ anchor start, Anchor.OccursAt anchor text start stop

/-- The ends of anchors in the whole text are those in the first part and, behind it, those in the
second one. -/
theorem AnchorStops.eq_append {front back : List Char} (apart : EndsApart front)
    {stops frontStops backStops : List Nat} (whole : AnchorStops (front ++ back) stops)
    (first : AnchorStops front frontStops) (second : AnchorStops back backStops) :
    stops = frontStops ++ backStops.map (byteLength front + ·) := by
  have ascending : (frontStops ++ backStops.map (byteLength front + ·)).Pairwise (· < ·) := by
    refine List.pairwise_append.mpr ⟨first.ascending, ?_, ?_⟩
    · rw [List.pairwise_map]
      exact second.ascending.imp fun order => Nat.add_lt_add_left order _
    · intro stop frontMem later laterMem
      obtain ⟨backStop, backMem, rfl⟩ := List.mem_map.mp laterMem
      obtain ⟨anchor, start, occurs⟩ := (first.mem_iff stop).mp frontMem
      obtain ⟨backAnchor, backStart, backOccurs⟩ := (second.mem_iff backStop).mp backMem
      have inside := occurs.stop_le
      have order := backOccurs.start_lt_stop
      omega
  refine whole.ascending.eq_of_mem_iff ascending fun stop => ?_
  rw [whole.mem_iff, List.mem_append, List.mem_map, first.mem_iff]
  simp only [Anchor.OccursAt.append_iff_of_endsApart apart, second.mem_iff]
  constructor
  · rintro ⟨anchor, start, occurs | ⟨later, laterStop, rfl, rfl, occurs⟩⟩
    · exact Or.inl ⟨anchor, start, occurs⟩
    · exact Or.inr ⟨laterStop, ⟨anchor, later, occurs⟩, rfl⟩
  · rintro (⟨anchor, start, occurs⟩ | ⟨laterStop, ⟨anchor, later, occurs⟩, rfl⟩)
    · exact ⟨anchor, start, Or.inl occurs⟩
    · exact ⟨anchor, byteLength front + later, Or.inr ⟨later, laterStop, rfl, rfl, occurs⟩⟩

/-- Two lists that are paired with a third one are paired with each other. -/
theorem forall₂_of_common {α β γ : Type} {first : α → γ → Prop} {second : β → γ → Prop}
    {both : α → β → Prop} {items : List α} {others : List β} {marks : List γ}
    (pairs : List.Forall₂ first items marks) (otherPairs : List.Forall₂ second others marks)
    (combine : ∀ {item other mark}, first item mark → second other mark → both item other) :
    List.Forall₂ both items others := by
  induction pairs generalizing others with
  | nil =>
      cases otherPairs
      exact .nil
  | cons pair _ ih =>
      cases otherPairs with
      | cons otherPair otherPairs => exact .cons (combine pair otherPair) (ih otherPairs)

/-- The calls of a script whose first part ends apart are those of the first part and, behind them,
those of the second part at their places in the whole script. -/
theorem scanCalls_of_divided_script (first second : String) (apart : EndsApart first.toList) :
    ∃ kept, List.Forall₂ (fun site whole => site.KeptAs first.toList whole) (scanCalls first) kept ∧
      scanCalls (first ++ second) = kept ++ (scanCalls second).map fun site =>
        site.movedTo (LineIndex.ofText (first ++ second).toList)
          (byteLength first.toList + site.offset) := by
  obtain ⟨stops, ascending, complete, read⟩ := exists_stops_scanCalls (first ++ second)
  obtain ⟨frontStops, frontAscending, frontComplete, frontRead⟩ := exists_stops_scanCalls first
  obtain ⟨backStops, backAscending, backComplete, backRead⟩ := exists_stops_scanCalls second
  rw [String.toList_append] at complete read ⊢
  obtain rfl := AnchorStops.eq_append apart ⟨ascending, complete⟩ ⟨frontAscending, frontComplete⟩
    ⟨backAscending, backComplete⟩
  have frontPart := List.forall₂_take_append _ _ _ read
  have backPart := List.forall₂_drop_append _ _ _ read
  rw [List.forall₂_map_right_iff] at backPart
  refine ⟨_, forall₂_of_common frontRead frontPart fun reads wholeReads =>
    reads.keptAs wholeReads, ?_⟩
  have moved := forall₂_of_common backRead backPart fun reads wholeReads =>
    (reads.eq_movedTo apart wholeReads).symm
  rw [← List.forall₂_map_left_iff, List.forall₂_eq_eq_eq] at moved
  rw [moved, List.take_append_drop]

/-- A script that is divided inside an argument list. -/
theorem scanCalls_of_divided_script_openList :
    EndsApart "GSTown.GetName(GSDate.GetYear(d),".toList ∧
      ∃ kept, List.Forall₂
          (fun site whole => site.KeptAs "GSTown.GetName(GSDate.GetYear(d),".toList whole)
          (scanCalls "GSTown.GetName(GSDate.GetYear(d),") kept ∧
        scanCalls ("GSTown.GetName(GSDate.GetYear(d)," ++ "\n.x); GSSign.Build(GSDate.Now())") =
          kept ++ (scanCalls "\n.x); GSSign.Build(GSDate.Now())").map fun site =>
            site.movedTo
              (LineIndex.ofText ("GSTown.GetName(GSDate.GetYear(d)," ++
                "\n.x); GSSign.Build(GSDate.Now())").toList)
              (byteLength "GSTown.GetName(GSDate.GetYear(d),".toList + site.offset) := by
  have apart : EndsApart "GSTown.GetName(GSDate.GetYear(d),".toList := by
    rintro c ⟨⟩
    decide
  exact ⟨apart, scanCalls_of_divided_script _ _ apart⟩

end ScriptLint
