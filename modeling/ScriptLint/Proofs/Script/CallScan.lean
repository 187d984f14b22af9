import Mathlib.Data.List.Forall2
import ScriptLint.Proofs.Script.Anchors

/-!
# What a scan reports

A scan reports one call for every place of a text at which an anchor ends, in the order of these
places.  Of the anchors that end at one place it reports the one that begins first.

The cursor of a scan never stands inside an anchor.  One step moves it to the end of the next
anchor, so no end is passed over, and the calls of a whole scan follow by induction on the steps.
-/

namespace ScriptLint

open Text

/-- An occurrence behind the first character is one of the rest of the text. -/
theorem Anchor.OccursAt.tail {anchor : Anchor} {c : Char} {rest : List Char} {start stop : Nat}
    (occurs : anchor.OccursAt (c :: rest) start stop) (started : start ≠ 0) :
    c.utf8Size ≤ start ∧
      anchor.OccursAt rest (start - c.utf8Size) (stop - c.utf8Size) := by
  obtain ⟨wellFormed, before, behind, textEq, rfl, rfl⟩ := occurs
  cases before with
  | nil => exact absurd rfl started
  | cons first before =>
      obtain ⟨rfl, restEq⟩ := List.cons.inj textEq
      refine ⟨by simp, wellFormed, before, behind, restEq, by simp, ?_⟩
      rw [byteLength_cons]
      omega

theorem Anchor.parse?_of_occursAt_zero {anchor : Anchor} {text : List Char} {stop : Nat}
    (occurs : anchor.OccursAt text 0 stop) : ∃ behind, parse? text = some (anchor, behind) := by
  obtain ⟨wellFormed, before, behind, rfl, startEq, -⟩ := occurs
  have atFront : before = [] := by
    by_contra filled
    exact absurd (byteLength_pos filled) (by omega)
  subst atFront
  exact ⟨behind, parse?_chars_append wellFormed behind⟩

theorem firstAnchor?_eq_none {offset : Nat} {text : List Char}
    (missing : firstAnchor? offset text = none) (anchor : Anchor) (start stop : Nat) :
    ¬ anchor.OccursAt text start stop := by
  induction text generalizing offset start stop with
  | nil =>
      rintro ⟨-, before, behind, textEq, -, -⟩
      simp [Anchor.chars] at textEq
  | cons c rest ih =>
      intro occurs
      rw [firstAnchor?] at missing
      split at missing
      next => cases missing
      next unread =>
        by_cases started : start = 0
        · subst started
          obtain ⟨behind, parsed⟩ := Anchor.parse?_of_occursAt_zero occurs
          rw [unread] at parsed
          cases parsed
        · exact ih missing _ _ (occurs.tail started).2

/-- The first anchor stands in the text, and no anchor begins before it. -/
theorem firstAnchor?_eq_some {offset found : Nat} {text behind : List Char} {anchor : Anchor}
    (first : firstAnchor? offset text = some (found, anchor, behind)) :
    ∃ before, text = before ++ (anchor.chars ++ behind) ∧ found = offset + byteLength before ∧
      anchor.IsWellFormed ∧
      ∀ other start stop, Anchor.OccursAt other text start stop → byteLength before ≤ start := by
  induction text generalizing offset with
  | nil => simp [firstAnchor?] at first
  | cons c rest ih =>
      rw [firstAnchor?] at first
      split at first
      next parsed =>
        cases first
        obtain ⟨wellFormed, textEq⟩ := Anchor.parse?_eq_some_iff.mp parsed
        exact ⟨[], textEq, rfl, wellFormed, fun _ _ _ _ => Nat.zero_le _⟩
      next unread =>
        obtain ⟨before, restEq, foundEq, wellFormed, none_before⟩ := ih first
        refine ⟨c :: before, by simp [restEq], by rw [foundEq, byteLength_cons]; omega,
          wellFormed, ?_⟩
        intro other start stop occurs
        by_cases started : start = 0
        · subst started
          obtain ⟨_, parsed⟩ := Anchor.parse?_of_occursAt_zero occurs
          rw [unread] at parsed
          cases parsed
        · obtain ⟨afterChar, inRest⟩ := occurs.tail started
          have bound := none_before _ _ _ inRest
          rw [byteLength_cons]
          omega

namespace CallSite

/-- What a call site says of an anchor that ends at a byte offset of a text, and of the text
behind it. -/
structure ReadsAnchor (site : CallSite) (text : List Char) (stop : Nat) (anchor : Anchor)
    (behind : List Char) : Prop where
  /-- The anchor begins at the offset of the call. -/
  occurs : anchor.OccursAt text site.offset stop
  /-- No anchor that ends at the same place begins before. -/
  leftmost : ∀ other start, Anchor.OccursAt other text start stop → site.offset ≤ start
  /-- The class is the one that the anchor names. -/
  className_eq : site.className = String.ofList anchor.className
  /-- The method is the one that the anchor names. -/
  methodName_eq : site.methodName = String.ofList anchor.methodName
  /-- The text behind the anchor begins at its end. -/
  behind_eq : ∃ front, text = front ++ behind ∧ byteLength front = stop
  /-- The arguments are those of the list that the text behind the anchor begins with. -/
  arity_eq : site.arity = Arity.ofArguments (ArgumentList.scan behind).inner
  /-- The line and the column are those of the offset. -/
  position_eq : (site.line, site.column) = (LineIndex.ofText text).lineCol site.offset

/-- A call site reports the first of the anchors that end at a byte offset of a text. -/
def ReadsTo (site : CallSite) (text : List Char) (stop : Nat) : Prop :=
  ∃ anchor behind, site.ReadsAnchor text stop anchor behind

variable {site : CallSite} {text : List Char} {stop : Nat}

theorem ReadsTo.position_eq (reads : site.ReadsTo text stop) :
    (site.line, site.column) = (LineIndex.ofText text).lineCol site.offset := by
  obtain ⟨anchor, behind, reads⟩ := reads
  exact reads.position_eq

/-- A call with an earlier anchor begins before the later one. -/
theorem ReadsTo.offset_lt_offset {later : CallSite} {laterStop : Nat}
    (reads : site.ReadsTo text stop) (laterReads : later.ReadsTo text laterStop)
    (stops : stop < laterStop) : site.offset < later.offset := by
  obtain ⟨anchor, behind, reads⟩ := reads
  obtain ⟨laterAnchor, laterBehind, laterReads⟩ := laterReads
  have apart := reads.occurs.stop_le_start laterReads.occurs stops
  exact Nat.lt_of_lt_of_le reads.occurs.start_lt_stop apart

end CallSite

namespace CallCursor

/-- A cursor that stands in a text between two anchors, or before or behind all of them. -/
structure StandsIn (cursor : CallCursor) (text : List Char) : Prop where
  /-- The lines are those of the text. -/
  lines_eq : cursor.lines = LineIndex.ofText text
  /-- The rest of the text begins at the offset. -/
  rest_eq : ∃ passed, text = passed ++ cursor.rest ∧ byteLength passed = cursor.offset
  /-- No anchor contains the offset. -/
  apart : ∀ anchor start stop, Anchor.OccursAt anchor text start stop →
    stop ≤ cursor.offset ∨ cursor.offset ≤ start

theorem ofText_standsIn (text : List Char) : (ofText text).StandsIn text where
  lines_eq := rfl
  rest_eq := ⟨[], rfl, rfl⟩
  apart _ _ _ _ := Or.inr (Nat.zero_le _)

variable {cursor later : CallCursor} {site : CallSite} {text : List Char}

/-- When no call follows, no anchor ends behind the cursor. -/
theorem StandsIn.stop_le_of_next?_eq_none (stands : cursor.StandsIn text)
    (finished : cursor.next? = none) {anchor : Anchor} {start stop : Nat}
    (occurs : anchor.OccursAt text start stop) : stop ≤ cursor.offset := by
  obtain ⟨passed, rfl, offsetEq⟩ := stands.rest_eq
  refine (stands.apart anchor start stop occurs).resolve_right fun behind => ?_
  have missing : firstAnchor? cursor.offset cursor.rest = none := by
    unfold next? at finished
    split at finished
    · cases finished
    · assumption
  have ordered := occurs.start_lt_stop
  apply firstAnchor?_eq_none missing anchor (start - cursor.offset) (stop - cursor.offset)
  rw [← Anchor.OccursAt.append_iff passed, offsetEq,
    Nat.add_sub_cancel' behind, Nat.add_sub_cancel' (by omega)]
  exact occurs

/-- A step reports the anchor with the first end behind the cursor, and moves to that end. -/
theorem StandsIn.of_next?_eq_some (stands : cursor.StandsIn text)
    (found : cursor.next? = some (site, later)) :
    later.StandsIn text ∧ site.ReadsTo text later.offset ∧ cursor.offset < later.offset ∧
      ∀ anchor start stop, Anchor.OccursAt anchor text start stop → cursor.offset < stop →
        later.offset ≤ stop := by
  obtain ⟨passed, textEq, offsetEq⟩ := stands.rest_eq
  unfold next? at found
  split at found
  case h_2 => cases found
  case h_1 start anchor behind first =>
    cases found
    obtain ⟨before, restEq, rfl, wellFormed, noneBefore⟩ := firstAnchor?_eq_some first
    have occurs : anchor.OccursAt text (cursor.offset + byteLength before)
        (cursor.offset + byteLength before + byteLength anchor.chars) :=
      ⟨wellFormed, passed ++ before, behind, by simp [textEq, restEq], by simp [offsetEq], rfl⟩
    -- An anchor that ends behind the cursor begins there, and then not before the one found.
    have startsLater : ∀ other start stop, Anchor.OccursAt other text start stop →
        cursor.offset < stop → cursor.offset + byteLength before ≤ start := by
      intro other start stop otherOccurs endsBehind
      have begins := (stands.apart other start stop otherOccurs).resolve_left (by omega)
      have ordered := otherOccurs.start_lt_stop
      have inRest : other.OccursAt cursor.rest (start - cursor.offset) (stop - cursor.offset) := by
        rw [← Anchor.OccursAt.append_iff passed, ← textEq, offsetEq,
          Nat.add_sub_cancel' begins, Nat.add_sub_cancel' (by omega)]
        exact otherOccurs
      have bound := noneBefore _ _ _ inRest
      omega
    have stopsLater : ∀ other start stop, Anchor.OccursAt other text start stop →
        cursor.offset < stop →
          cursor.offset + byteLength before + byteLength anchor.chars ≤ stop := by
      intro other start stop otherOccurs endsBehind
      by_contra endsBefore
      have apart := otherOccurs.stop_le_start occurs (by omega)
      have bound := startsLater _ _ _ otherOccurs endsBehind
      have ordered := otherOccurs.start_lt_stop
      omega
    have advances := occurs.start_lt_stop
    refine ⟨⟨stands.lines_eq, ?_, ?_⟩, ⟨anchor, behind, ?_⟩, by simp only; omega, stopsLater⟩
    · exact ⟨passed ++ before ++ anchor.chars, by simp [textEq, restEq],
        by simp [offsetEq, Nat.add_assoc]⟩
    · intro other start stop otherOccurs
      rcases Nat.lt_or_ge (cursor.offset + byteLength before + byteLength anchor.chars) stop with
        behindIt | upTo
      · exact Or.inr (occurs.stop_le_start otherOccurs behindIt)
      · exact Or.inl upTo
    · refine ⟨occurs, ?_, rfl, rfl, ?_, rfl, ?_⟩
      · intro other start otherOccurs
        exact startsLater other start _ otherOccurs (by simp only; omega)
      · exact ⟨passed ++ before ++ anchor.chars, by simp [textEq, restEq],
          by simp [offsetEq, Nat.add_assoc]⟩
      · simp [CallSite.ofAnchor, stands.lines_eq]

theorem remaining_of_next?_eq_none (finished : cursor.next? = none) : cursor.remaining = [] := by
  rw [remaining]
  split
  · simp_all
  · rfl

theorem remaining_of_next?_eq_some (found : cursor.next? = some (site, later)) :
    cursor.remaining = site :: later.remaining := by
  rw [remaining]
  split
  · simp_all
  · simp_all

/-- From a cursor on, the ends of anchors behind it are reported one by one. -/
theorem StandsIn.exists_stops {cursor : CallCursor} {text : List Char}
    (stands : cursor.StandsIn text) :
    ∃ stops : List Nat, stops.Pairwise (· < ·) ∧
      (∀ stop, stop ∈ stops ↔
        cursor.offset < stop ∧ ∃ anchor start, Anchor.OccursAt anchor text start stop) ∧
      List.Forall₂ (fun site stop => site.ReadsTo text stop) cursor.remaining stops := by
  cases step : cursor.next? with
  | none =>
      rw [remaining_of_next?_eq_none step]
      refine ⟨[], List.Pairwise.nil, fun stop => ?_, List.Forall₂.nil⟩
      simp only [List.not_mem_nil, false_iff, not_and, not_exists]
      intro endsBehind anchor start occurs
      exact absurd (stands.stop_le_of_next?_eq_none step occurs) (by omega)
  | some pair =>
      obtain ⟨site, later⟩ := pair
      obtain ⟨laterStands, reads, advances, nearest⟩ := stands.of_next?_eq_some step
      have shorter := length_lt_of_next? step
      obtain ⟨stops, ascending, complete, read⟩ := laterStands.exists_stops
      rw [remaining_of_next?_eq_some step]
      refine ⟨later.offset :: stops, List.pairwise_cons.mpr ⟨?_, ascending⟩, fun stop => ?_,
        List.Forall₂.cons reads read⟩
      · intro stop member
        exact ((complete stop).mp member).1
      · rw [List.mem_cons, complete]
        constructor
        · rintro (rfl | ⟨endsBehind, occurs⟩)
          · obtain ⟨anchor, behind, reads⟩ := reads
            exact ⟨advances, anchor, site.offset, reads.occurs⟩
          · exact ⟨by omega, occurs⟩
        · rintro ⟨endsBehind, anchor, start, occurs⟩
          have bound := nearest anchor start stop occurs endsBehind
          rcases Nat.eq_or_lt_of_le bound with same | behindIt
          · exact Or.inl same.symm
          · exact Or.inr ⟨behindIt, anchor, start, occurs⟩
termination_by cursor.rest.length

/-- Every call takes at least a character, so a scan makes no more steps than the text is long. -/
theorem length_remaining_le (cursor : CallCursor) :
    cursor.remaining.length ≤ cursor.rest.length := by
  cases step : cursor.next? with
  | none => simp [remaining_of_next?_eq_none step]
  | some pair =>
      obtain ⟨site, later⟩ := pair
      have shorter := length_lt_of_next? step
      have fewer := length_remaining_le later
      rw [remaining_of_next?_eq_some step, List.length_cons]
      omega
termination_by cursor.rest.length

end CallCursor

/-- A cursor that stands in front of an anchor finds it. -/
theorem CallCursor.remaining_of_parse? {text behind : List Char} {anchor : Anchor}
    (parsed : Anchor.parse? text = some (anchor, behind)) (lines : LineIndex) (offset : Nat) :
    (⟨lines, offset, text⟩ : CallCursor).remaining =
      CallSite.ofAnchor lines offset anchor behind ::
        (⟨lines, offset + byteLength anchor.chars, behind⟩ : CallCursor).remaining := by
  have first : firstAnchor? offset text = some (offset, anchor, behind) := by
    cases text with
    | nil => simp [Anchor.parse?] at parsed
    | cons c rest => rw [firstAnchor?, parsed]
  apply remaining_of_next?_eq_some
  rw [next?, first]

/-- A script that begins with an anchor has its first call there. -/
theorem scanCalls_of_parse? {text : String} {anchor : Anchor} {behind : List Char}
    (parsed : Anchor.parse? text.toList = some (anchor, behind)) :
    ∃ later, scanCalls text =
      CallSite.ofAnchor (LineIndex.ofText text.toList) 0 anchor behind :: later :=
  ⟨_, CallCursor.remaining_of_parse? parsed (LineIndex.ofText text.toList) 0⟩

theorem exists_stops_scanCalls (text : String) :
    ∃ stops : List Nat, stops.Pairwise (· < ·) ∧
      (∀ stop, stop ∈ stops ↔ ∃ anchor start, Anchor.OccursAt anchor text.toList start stop) ∧
      List.Forall₂ (fun site stop => site.ReadsTo text.toList stop) (scanCalls text) stops := by
  obtain ⟨stops, ascending, complete, read⟩ :=
    (CallCursor.ofText_standsIn text.toList).exists_stops
  refine ⟨stops, ascending, fun stop => (complete stop).trans ?_, read⟩
  constructor
  · rintro ⟨-, occurs⟩
    exact occurs
  · rintro ⟨anchor, start, occurs⟩
    exact ⟨Nat.zero_lt_of_lt occurs.start_lt_stop, anchor, start, occurs⟩

/-- An order of one list is one of a list that is paired with it. -/
theorem pairwise_of_forall₂ {α β : Type} {paired : α → β → Prop} {below : β → β → Prop}
    {before : α → α → Prop} {items : List α} {marks : List β}
    (pairs : List.Forall₂ paired items marks) (ordered : marks.Pairwise below)
    (transfer : ∀ {first second firstMark secondMark}, paired first firstMark →
      paired second secondMark → below firstMark secondMark → before first second) :
    items.Pairwise before := by
  rw [List.pairwise_iff_getElem] at ordered ⊢
  intro i j iLt jLt order
  have lengthEq := pairs.length_eq
  exact transfer (pairs.get iLt (by omega)) (pairs.get jLt (by omega))
    (ordered i j (by omega) (by omega) order)

theorem scanCalls_pairwise_offset_lt (text : String) :
    (scanCalls text).Pairwise fun first second => first.offset < second.offset := by
  obtain ⟨stops, ascending, -, read⟩ := exists_stops_scanCalls text
  exact pairwise_of_forall₂ read ascending fun reads laterReads stopLt =>
    reads.offset_lt_offset laterReads stopLt

theorem position_eq_of_mem_scanCalls {text : String} {site : CallSite}
    (member : site ∈ scanCalls text) :
    (site.line, site.column) = (LineIndex.ofText text.toList).lineCol site.offset := by
  obtain ⟨stops, -, -, read⟩ := exists_stops_scanCalls text
  obtain ⟨index, indexLt, rfl⟩ := List.mem_iff_getElem.mp member
  have lengthEq := read.length_eq
  exact (read.get indexLt (by omega)).position_eq

/-- A scan reports exactly one call for every byte offset at which an anchor ends, in ascending
order, and of the anchors that end there the first.  The calls begin at ascending offsets too, and
there are finitely many of them, no more than characters in the text. -/
theorem scanCalls_sound_complete_ordered (text : String) :
    (∃ stops : List Nat, stops.Pairwise (· < ·) ∧
      (∀ stop, stop ∈ stops ↔ ∃ anchor start, Anchor.OccursAt anchor text.toList start stop) ∧
      List.Forall₂ (fun site stop => site.ReadsTo text.toList stop) (scanCalls text) stops) ∧
    ((scanCalls text).Pairwise fun first second => first.offset < second.offset) ∧
    (scanCalls text).length ≤ text.toList.length :=
  ⟨exists_stops_scanCalls text, scanCalls_pairwise_offset_lt text,
    CallCursor.length_remaining_le (CallCursor.ofText text.toList)⟩

end ScriptLint
