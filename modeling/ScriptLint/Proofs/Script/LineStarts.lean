import ScriptLint.Proofs.Script.LinePositions
import ScriptLint.Proofs.Text.SingleBytes

/-!
# Where lines begin

A line begins behind every line feed among the bytes of a text.  So the line of an offset is one
more than the line feeds before the offset, and the column counts from behind the last of them.  The
start of its line and the column give the offset back.
-/

namespace ScriptLint

open Text

namespace LineIndex

def feed : UInt8 :=
  '\n'.toUInt8

/-- The offsets behind the line feeds among bytes of which the first stands at some offset. -/
def behindFeeds (offset : Nat) : List UInt8 → List Nat
  | [] => []
  | byte :: rest =>
    if byte = feed then (offset + 1) :: behindFeeds (offset + 1) rest
    else behindFeeds (offset + 1) rest

theorem behindFeeds_append {run : List UInt8} (unbroken : feed ∉ run) (offset : Nat)
    (rest : List UInt8) :
    behindFeeds offset (run ++ rest) = behindFeeds (offset + run.length) rest := by
  induction run generalizing offset with
  | nil => rfl
  | cons byte later ih =>
      rw [List.mem_cons, not_or] at unbroken
      rw [List.cons_append, behindFeeds, if_neg (Ne.symm unbroken.1), ih unbroken.2,
        List.length_cons, Nat.add_assoc, Nat.add_comm 1]

theorem startsAfter_eq_behindFeeds (offset : Nat) (chars : List Char) :
    startsAfter offset chars = behindFeeds offset (chars.flatMap String.utf8EncodeChar) := by
  induction chars generalizing offset with
  | nil => rfl
  | cons c rest ih =>
      rw [List.flatMap_cons, startsAfter, ih]
      by_cases ends : c = '\n'
      · subst ends
        rw [if_pos rfl, utf8EncodeChar_of_lt (by decide)]
        rfl
      · rw [if_neg ends, behindFeeds_append (not_mem_utf8EncodeChar (by decide) ends),
          String.length_utf8EncodeChar]

theorem lt_of_mem_behindFeeds {offset start : Nat} {rest : List UInt8}
    (member : start ∈ behindFeeds offset rest) : offset < start := by
  induction rest generalizing offset with
  | nil => cases member
  | cons byte rest ih =>
      rw [behindFeeds] at member
      split at member
      · rcases List.mem_cons.mp member with rfl | later
        · exact Nat.lt_succ_self offset
        · exact Nat.lt_of_succ_lt (ih later)
      · exact Nat.lt_of_succ_lt (ih member)

/-- The line on which an offset is begins at `start`: no line feed stands between them. -/
structure IsLineStart (content : List UInt8) (offset start : Nat) : Prop where
  le_offset : start ≤ offset
  behind_feed : start = 0 ∨ content[start - 1]? = some feed
  unbroken : ∀ index, start ≤ index → index < offset → content[index]? ≠ some feed

namespace IsLineStart

variable {content : List UInt8} {offset start : Nat}

theorem zero (content : List UInt8) : IsLineStart content 0 0 :=
  ⟨Nat.le_refl 0, Or.inl rfl, fun _ _ before => absurd before (Nat.not_lt_zero _)⟩

theorem unique {other : Nat} (begins : IsLineStart content offset start)
    (beginsToo : IsLineStart content offset other) : other = start := by
  rcases Nat.lt_trichotomy other start with earlier | same | later
  · have feedBefore := begins.behind_feed.resolve_left (by omega)
    have bound := begins.le_offset
    exact absurd feedBefore (beginsToo.unbroken (start - 1) (by omega) (by omega))
  · exact same
  · have feedBefore := beginsToo.behind_feed.resolve_left (by omega)
    have bound := beginsToo.le_offset
    exact absurd feedBefore (begins.unbroken (other - 1) (by omega) (by omega))

/-- Behind a line feed a new line begins, and behind any other byte the line goes on. -/
theorem step {byte : UInt8} (begins : IsLineStart content offset start)
    (stands : content[offset]? = some byte) :
    IsLineStart content (offset + 1) (if byte = feed then offset + 1 else start) := by
  have bound := begins.le_offset
  by_cases isFeed : byte = feed
  · rw [if_pos isFeed]
    refine ⟨Nat.le_refl _, Or.inr ?_, fun index atLeast below => by omega⟩
    rw [Nat.add_sub_cancel, stands, isFeed]
  · rw [if_neg isFeed]
    refine ⟨by omega, begins.behind_feed, fun index atLeast below => ?_⟩
    rcases Nat.lt_or_eq_of_le (Nat.le_of_lt_succ below) with before | rfl
    · exact begins.unbroken index atLeast before
    · rw [stands]
      exact fun same => isFeed (Option.some.inj same)

theorem past_end {later : Nat} (begins : IsLineStart content offset start)
    (atEnd : content.length ≤ offset) (order : offset ≤ later) :
    IsLineStart content later start := by
  have bound := begins.le_offset
  refine ⟨by omega, begins.behind_feed, fun index atLeast below => ?_⟩
  by_cases before : index < offset
  · exact begins.unbroken index atLeast before
  · rw [List.getElem?_eq_none (by omega)]
    exact (Option.some_ne_none feed).symm

end IsLineStart

/-- From some offset on, each line feed up to the offset that is looked for begins another line. -/
theorem locate_behindFeeds {content rest : List UInt8} {passed offset start : Nat} (line : Nat)
    (restEq : content.drop passed = rest) (order : passed ≤ offset)
    (begins : IsLineStart content passed start) :
    ∃ found, locate offset line start (behindFeeds passed rest) =
        (line + (rest.take (offset - passed)).count feed, found) ∧
      IsLineStart content offset found := by
  induction rest generalizing passed line start with
  | nil =>
      refine ⟨start, ?_, begins.past_end (List.drop_eq_nil_iff.mp restEq) order⟩
      rw [List.take_nil, List.count_nil]
      rfl
  | cons byte rest ih =>
      rcases Nat.eq_or_lt_of_le order with same | more
      · subst same
        have behind : ∀ next ∈ behindFeeds passed (byte :: rest), passed < next :=
          fun next => lt_of_mem_behindFeeds
        refine ⟨start, ?_, begins⟩
        rw [Nat.sub_self, List.take_zero, List.count_nil]
        exact locate_append passed line start [] behind
      · have stands : content[passed]? = some byte := by
          rw [← Nat.add_zero passed, ← List.getElem?_drop, restEq, List.getElem?_cons_zero]
        have laterEq : content.drop (passed + 1) = rest := by
          rw [← List.tail_drop, restEq, List.tail_cons]
        have next := begins.step stands
        have takes : offset - passed = offset - (passed + 1) + 1 := by omega
        rw [behindFeeds, takes, List.take_succ_cons]
        by_cases isFeed : byte = feed
        · rw [if_pos isFeed] at next ⊢
          obtain ⟨found, located, foundBegins⟩ := ih (line + 1) laterEq more next
          refine ⟨found, ?_, foundBegins⟩
          rw [locate, if_pos (Nat.succ_le_of_lt more), located, isFeed, List.count_cons_self]
          congr 1
          omega
        · rw [if_neg isFeed] at next ⊢
          obtain ⟨found, located, foundBegins⟩ := ih line laterEq more next
          exact ⟨found, by rw [located, List.count_cons_of_ne isFeed], foundBegins⟩

/-- The position of any offset, inside the text or past its end. -/
theorem lineCol_ofText (text : String) (offset : Nat) :
    ∃ start, IsLineStart (bytes text) offset start ∧
      (ofText text.toList).lineCol offset =
        (1 + ((bytes text).take offset).count feed, 1 + (offset - start)) := by
  obtain ⟨start, located, begins⟩ :=
    locate_behindFeeds 1 List.drop_zero (Nat.zero_le offset) (.zero (bytes text))
  refine ⟨start, begins, ?_⟩
  rw [lineCol_eq, ofText, startsAfter_eq_behindFeeds, ← bytes_eq_flatMap, located, Nat.sub_zero,
    Nat.add_comm 1 (offset - start)]

theorem lineCol_fst_le (text : String) (offset : Nat) :
    ((ofText text.toList).lineCol offset).1 ≤ 1 + offset := by
  obtain ⟨start, -, exact⟩ := lineCol_ofText text offset
  have feeds : ((bytes text).take offset).count feed ≤ ((bytes text).take offset).length :=
    List.count_le_length
  have taken := List.length_take_le offset (bytes text)
  rw [exact]
  exact Nat.add_le_add_left (Nat.le_trans feeds taken) 1

/-- The starts of all lines, of which the first one is zero. -/
def starts (index : LineIndex) : List Nat :=
  0 :: index.laterStarts

/-- The offset at a column of a line, if there is such a line. -/
def offsetAt? (index : LineIndex) (position : Nat × Nat) : Option Nat :=
  index.starts[position.1 - 1]?.map (· + (position.2 - 1))

/-- The last of some line starts that is not after an offset. -/
structure IsLastStart (starts : List Nat) (offset place start : Nat) : Prop where
  stands : starts[place]? = some start
  le_offset : start ≤ offset
  lt_next : ∀ next, starts[place + 1]? = some next → offset < next

theorem lt_of_getElem?_of_lt {α : Type} [LT α] {items : List α} {first second : Nat} {less more : α}
    (ascending : items.Pairwise (· < ·)) (order : first < second)
    (firstEq : items[first]? = some less) (secondEq : items[second]? = some more) :
    less < more := by
  obtain ⟨firstBound, rfl⟩ := List.getElem?_eq_some_iff.mp firstEq
  obtain ⟨secondBound, rfl⟩ := List.getElem?_eq_some_iff.mp secondEq
  exact List.pairwise_iff_getElem.mp ascending first second firstBound secondBound order

theorem IsLastStart.not_lt {starts : List Nat} {offset place other start otherStart : Nat}
    (ascending : starts.Pairwise (· < ·)) (last : IsLastStart starts offset place start)
    (otherLast : IsLastStart starts offset other otherStart) : ¬ place < other := by
  intro order
  have inside : place + 1 < starts.length :=
    Nat.lt_of_le_of_lt order (List.getElem?_eq_some_iff.mp otherLast.stands).1
  have behind := last.lt_next _ (List.getElem?_eq_getElem inside)
  have bound := otherLast.le_offset
  rcases Nat.eq_or_lt_of_le (Nat.succ_le_of_lt order) with same | more
  · have stands := otherLast.stands
    rw [← same, List.getElem?_eq_getElem inside, Option.some.injEq] at stands
    omega
  · have later := lt_of_getElem?_of_lt ascending more (List.getElem?_eq_getElem inside)
      otherLast.stands
    omega

/-- Among ascending starts there is one last start only. -/
theorem IsLastStart.unique {starts : List Nat} {offset place other start otherStart : Nat}
    (ascending : starts.Pairwise (· < ·)) (last : IsLastStart starts offset place start)
    (otherLast : IsLastStart starts offset other otherStart) :
    other = place ∧ otherStart = start := by
  have first := last.not_lt ascending otherLast
  have second := otherLast.not_lt ascending last
  obtain rfl : other = place := by omega
  exact ⟨rfl, Option.some.inj (otherLast.stands.symm.trans last.stands)⟩

theorem isLastStart_locate {offset start : Nat} (line : Nat) (later : List Nat)
    (started : start ≤ offset) :
    ∃ place, (locate offset line start later).1 = line + place ∧
      IsLastStart (start :: later) offset place (locate offset line start later).2 := by
  induction later generalizing line start with
  | nil => exact ⟨0, rfl, rfl, started, fun next impossible => by simp at impossible⟩
  | cons next later ih =>
      rw [locate]
      by_cases behind : next ≤ offset
      · rw [if_pos behind]
        obtain ⟨place, lineEq, last⟩ := ih (line + 1) behind
        exact ⟨place + 1, by omega, last.stands, last.le_offset, last.lt_next⟩
      · rw [if_neg behind]
        refine ⟨0, rfl, rfl, started, fun other isNext => ?_⟩
        obtain rfl : next = other := Option.some.inj isNext
        exact Nat.lt_of_not_le behind

theorem pairwise_behindFeeds (offset : Nat) (rest : List UInt8) :
    (behindFeeds offset rest).Pairwise (· < ·) := by
  induction rest generalizing offset with
  | nil => exact .nil
  | cons byte rest ih =>
      rw [behindFeeds]
      split
      · exact List.pairwise_cons.mpr ⟨fun next => lt_of_mem_behindFeeds, ih (offset + 1)⟩
      · exact ih (offset + 1)

theorem le_of_mem_behindFeeds {offset start : Nat} {rest : List UInt8}
    (member : start ∈ behindFeeds offset rest) : start ≤ offset + rest.length := by
  induction rest generalizing offset with
  | nil => cases member
  | cons byte rest ih =>
      rw [List.length_cons]
      rw [behindFeeds] at member
      split at member
      · rcases List.mem_cons.mp member with rfl | later
        · omega
        · have bound := ih later
          omega
      · have bound := ih member
        omega

theorem starts_ofText (text : String) :
    (ofText text.toList).starts = 0 :: behindFeeds 0 (bytes text) := by
  rw [starts, ofText, startsAfter_eq_behindFeeds, ← bytes_eq_flatMap]

theorem pairwise_starts_ofText (text : String) :
    (ofText text.toList).starts.Pairwise (· < ·) := by
  rw [starts_ofText]
  exact List.pairwise_cons.mpr ⟨fun next => lt_of_mem_behindFeeds, pairwise_behindFeeds 0 _⟩

theorem le_of_mem_starts_ofText {text : String} {start : Nat}
    (member : start ∈ (ofText text.toList).starts) : start ≤ byteLength text.toList := by
  rw [starts_ofText] at member
  rcases List.mem_cons.mp member with rfl | later
  · exact Nat.zero_le _
  · have bound := le_of_mem_behindFeeds later
    rwa [length_bytes, Nat.zero_add] at bound

theorem offsetAt?_lineCol (index : LineIndex) (offset : Nat) :
    index.offsetAt? (index.lineCol offset) = some offset := by
  obtain ⟨place, lineEq, last⟩ := isLastStart_locate 1 index.laterStarts (Nat.zero_le offset)
  have bound := last.le_offset
  rw [offsetAt?, lineCol_eq, starts, lineEq, Nat.add_sub_cancel_left, last.stands, Option.map_some,
    Nat.add_sub_cancel]
  congr 1
  omega

end LineIndex

end ScriptLint
