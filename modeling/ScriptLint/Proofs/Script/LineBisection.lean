import Mathlib.Data.Prod.Lex
import ScriptLint.Proofs.Script.LineStarts

/-!
# Looking up a line by bisection

The starts of the lines ascend, so the last one that is not after an offset is found by halving the
part of them in which it can be.  If the offset is a start, the bisection ends there, and else it
ends one behind the start that is looked for.  For a text of less than 2 ^ 32 bytes this can be done
in words of 32 bits, of which none overflows.
-/

namespace ScriptLint

open Text

/-- The index at which a word stands, or else the one at which it would have to be put in. -/
inductive WordPlace where
  | found (index : Nat)
  | missing (index : Nat)

namespace WordPlace

/-- Looks for a word among those from `low` on and before `high`. -/
def bisect (words : Array UInt32) (wanted : UInt32) (low high : Nat)
    (inside : high ≤ words.size) : WordPlace :=
  if unfinished : low < high then
    let middle := low + (high - low) / 2
    have : middle < words.size := by omega
    if words[middle] = wanted then .found middle
    else if words[middle] < wanted then bisect words wanted (middle + 1) high inside
    else bisect words wanted low middle (by omega)
  else .missing low
termination_by high - low

def find (words : Array UInt32) (wanted : UInt32) : WordPlace :=
  bisect words wanted 0 words.size (Nat.le_refl _)

/-- The word stands at its place, or it is greater than what is before and less than the rest. -/
def Fits (words : Array UInt32) (wanted : UInt32) : WordPlace → Prop
  | found index => words[index]? = some wanted
  | missing index =>
    index ≤ words.size ∧ (∀ before < index, ∀ word, words[before]? = some word → word < wanted) ∧
      ∀ behind ≥ index, ∀ word, words[behind]? = some word → wanted < word

theorem fits_bisect {words : Array UInt32} {wanted : UInt32} {low high : Nat}
    {inside : high ≤ words.size} (ascending : words.toList.Pairwise (· < ·)) (order : low ≤ high)
    (smaller : ∀ before < low, ∀ word, words[before]? = some word → word < wanted)
    (greater : ∀ behind ≥ high, ∀ word, words[behind]? = some word → wanted < word) :
    (bisect words wanted low high inside).Fits words wanted := by
  have lt_of_lt {first second : Nat} {less more : UInt32} (before : first < second)
      (firstEq : words[first]? = some less) (secondEq : words[second]? = some more) : less < more :=
    LineIndex.lt_of_getElem?_of_lt ascending before (by rwa [Array.getElem?_toList])
      (by rwa [Array.getElem?_toList])
  -- What lies outside the part that is left stays too small or too great.
  fun_induction bisect words wanted low high inside with
  | case1 low high inside unfinished middle valid same =>
      rw [Fits, Array.getElem?_eq_getElem valid, same]
  | case2 low high inside unfinished middle valid different less ih =>
      have atMiddle : words[middle]? = some words[middle] := Array.getElem?_eq_getElem valid
      refine ih (by omega) (fun before bound word wordEq => ?_) greater
      rcases Nat.lt_or_eq_of_le (Nat.le_of_lt_succ bound) with earlier | rfl
      · exact UInt32.lt_trans (lt_of_lt earlier wordEq atMiddle) less
      · rw [atMiddle] at wordEq
        exact Option.some.inj wordEq ▸ less
  | case3 low high inside unfinished middle valid different notLess ih =>
      have atMiddle : words[middle]? = some words[middle] := Array.getElem?_eq_getElem valid
      have more : wanted < words[middle] :=
        UInt32.lt_of_le_of_ne (UInt32.not_lt.mp notLess) (Ne.symm different)
      refine ih (by omega) smaller fun behind bound word wordEq => ?_
      rcases Nat.lt_or_eq_of_le bound with later | rfl
      · exact UInt32.lt_trans more (lt_of_lt later atMiddle wordEq)
      · rw [atMiddle] at wordEq
        exact Option.some.inj wordEq ▸ more
  | case4 low high inside finished =>
      exact ⟨by omega, smaller, fun behind bound => greater behind (by omega)⟩

theorem fits_find {words : Array UInt32} (ascending : words.toList.Pairwise (· < ·))
    (wanted : UInt32) : (find words wanted).Fits words wanted := by
  refine fits_bisect ascending (Nat.zero_le _) (fun before impossible => by omega) ?_
  intro behind bound word wordEq
  rw [Array.getElem?_eq_none bound] at wordEq
  cases wordEq

/-- The index of the last word that is not greater, unless the index would fall below zero. -/
def last? : WordPlace → Option Nat
  | found index => some index
  | missing 0 => none
  | missing (index + 1) => some index

end WordPlace

namespace LineIndex

/-- The line starts as words, each cut to its last 32 bits. -/
def words (index : LineIndex) : Array UInt32 :=
  (index.starts.map UInt32.ofNat).toArray

/-- The sum of two words, unless it overflows. -/
def plus? (first second : UInt32) : Option UInt32 :=
  if first.toNat + second.toNat < UInt32.size then some (first + second) else none

/-- The difference of two words, unless it would be below zero. -/
def minus? (first second : UInt32) : Option UInt32 :=
  if second ≤ first then some (first - second) else none

/-- The position of an offset, looked up and computed in words.  There is none if no line start is
found or something overflows. -/
def lineColWords? (words : Array UInt32) (offset : UInt32) : Option (UInt32 × UInt32) := do
  let place ← (WordPlace.find words offset).last?
  let start ← words[place]?
  let line ← plus? (UInt32.ofNat place) 1
  let before ← minus? offset start
  let column ← plus? before 1
  return (line, column)

theorem exists_plus? (first second : UInt32) (fits : first.toNat + second.toNat < UInt32.size) :
    ∃ sum, plus? first second = some sum ∧ sum.toNat = first.toNat + second.toNat :=
  ⟨first + second, if_pos fits, by rw [UInt32.toNat_add, Nat.mod_eq_of_lt fits]⟩

theorem exists_minus? (first second : UInt32) (order : second.toNat ≤ first.toNat) :
    ∃ rest, minus? first second = some rest ∧ rest.toNat = first.toNat - second.toNat :=
  ⟨first - second, if_pos order, UInt32.toNat_sub_of_le first second order⟩

section Words

variable {text : String} (short : byteLength text.toList < UInt32.size)

theorem getElem?_words (index : LineIndex) (place : Nat) :
    index.words[place]? = index.starts[place]?.map UInt32.ofNat := by
  rw [words, List.getElem?_toArray, List.getElem?_map]

include short

theorem toNat_ofNat_start {start : Nat} (member : start ∈ (ofText text.toList).starts) :
    (UInt32.ofNat start).toNat = start :=
  UInt32.toNat_ofNat_of_lt' (Nat.lt_of_le_of_lt (le_of_mem_starts_ofText member) short)

theorem pairwise_words : (ofText text.toList).words.toList.Pairwise (· < ·) := by
  rw [words, List.pairwise_map]
  refine (pairwise_starts_ofText text).imp_of_mem fun firstMem secondMem order => ?_
  rw [UInt32.lt_iff_toNat_lt, toNat_ofNat_start short firstMem, toNat_ofNat_start short secondMem]
  exact order

theorem exists_start_of_word {place : Nat} {word : UInt32}
    (wordEq : (ofText text.toList).words[place]? = some word) :
    (ofText text.toList).starts[place]? = some word.toNat := by
  rw [getElem?_words, Option.map_eq_some_iff] at wordEq
  obtain ⟨start, startEq, rfl⟩ := wordEq
  rw [startEq, toNat_ofNat_start short (List.mem_of_getElem? startEq)]

theorem word_of_start {place start : Nat}
    (startEq : (ofText text.toList).starts[place]? = some start) :
    ∃ word, (ofText text.toList).words[place]? = some word ∧ word.toNat = start :=
  ⟨UInt32.ofNat start, by rw [getElem?_words, startEq]; rfl,
    toNat_ofNat_start short (List.mem_of_getElem? startEq)⟩

/-- The bisection ends at the last start that is not after the offset, found or not. -/
theorem exists_last?_find (offset : UInt32) :
    ∃ place start, (WordPlace.find (ofText text.toList).words offset).last? = some place ∧
      IsLastStart (ofText text.toList).starts offset.toNat place start := by
  have fits := WordPlace.fits_find (pairwise_words short) offset
  cases ended : WordPlace.find (ofText text.toList).words offset with
  | found index =>
      rw [ended] at fits
      have stands := exists_start_of_word short fits
      refine ⟨index, offset.toNat, rfl, stands, Nat.le_refl _, fun next nextEq => ?_⟩
      exact lt_of_getElem?_of_lt (pairwise_starts_ofText text) (Nat.lt_succ_self index) stands
        nextEq
  | missing index =>
      rw [ended] at fits
      obtain ⟨inside, smaller, greater⟩ := fits
      cases index with
      | zero =>
          -- The first start is zero, and no offset is less.
          have startsAtZero : (ofText text.toList).starts[0]? = some 0 := rfl
          obtain ⟨word, wordEq, wordNumber⟩ := word_of_start short startsAtZero
          have less := UInt32.lt_iff_toNat_lt.mp (greater 0 (Nat.le_refl 0) word wordEq)
          omega
      | succ place =>
          obtain ⟨word, wordEq⟩ : ∃ word, (ofText text.toList).words[place]? = some word :=
            ⟨_, Array.getElem?_eq_getElem inside⟩
          have less := smaller place (Nat.lt_succ_self place) word wordEq
          refine ⟨place, word.toNat, rfl, exists_start_of_word short wordEq, Nat.le_of_lt less, ?_⟩
          intro next nextEq
          obtain ⟨nextWord, nextWordEq, rfl⟩ := word_of_start short nextEq
          exact greater (place + 1) (Nat.le_refl _) nextWord nextWordEq

theorem exists_lineColWords? {offset : UInt32} (below : offset.toNat < UInt32.size - 1) :
    ∃ line column, lineColWords? (ofText text.toList).words offset = some (line, column) ∧
      (ofText text.toList).lineCol offset.toNat = (line.toNat, column.toNat) := by
  obtain ⟨place, start, found, last⟩ := exists_last?_find short offset
  obtain ⟨otherPlace, lineEq, otherLast⟩ :=
    isLastStart_locate 1 (ofText text.toList).laterStarts (Nat.zero_le offset.toNat)
  obtain ⟨rfl, startEq⟩ := last.unique (pairwise_starts_ofText text) otherLast
  have startBound := last.le_offset
  have placeBound := lineCol_fst_le text offset.toNat
  rw [lineCol_eq, lineEq] at placeBound
  obtain ⟨word, wordEq, wordNumber⟩ := word_of_start short last.stands
  have placeNumber : (UInt32.ofNat otherPlace).toNat = otherPlace :=
    UInt32.toNat_ofNat_of_lt' (by omega)
  have oneNumber : (1 : UInt32).toNat = 1 := rfl
  obtain ⟨line, linePlus, lineNumber⟩ := exists_plus? (UInt32.ofNat otherPlace) 1 (by omega)
  obtain ⟨before, beforeMinus, beforeNumber⟩ := exists_minus? offset word (by omega)
  obtain ⟨column, columnPlus, columnNumber⟩ := exists_plus? before 1 (by omega)
  refine ⟨line, column, ?_, ?_⟩
  · simp only [lineColWords?, found, wordEq, linePlus, beforeMinus, columnPlus, Option.bind_some,
      bind, pure]
  · rw [lineCol_eq, lineEq, lineNumber, columnNumber, beforeNumber, wordNumber, placeNumber,
      oneNumber, startEq, Nat.add_comm 1]

end Words

end LineIndex

/-- The position of an offset in a short text, inside it or past its end, is found in words of 32
bits.  The line is one more than the line feeds among the bytes before the offset, and the column
counts from the start of the line.  Later offsets have later positions, and each position gives its
offset back. -/
theorem line_positions_are_exact {text : String} (short : byteLength text.toList < UInt32.size)
    {offset : UInt32} (below : offset.toNat < UInt32.size - 1) :
    ∃ line column start,
      LineIndex.lineColWords? (LineIndex.ofText text.toList).words offset = some (line, column) ∧
      (LineIndex.ofText text.toList).lineCol offset.toNat = (line.toNat, column.toNat) ∧
      line.toNat = 1 + ((bytes text).take offset.toNat).count LineIndex.feed ∧
      (∀ other, LineIndex.IsLineStart (bytes text) offset.toNat other ↔ other = start) ∧
      column.toNat = 1 + (offset.toNat - start) ∧
      (LineIndex.ofText text.toList).offsetAt? (line.toNat, column.toNat) = some offset.toNat ∧
      ∀ earlier < offset.toNat,
        toLex ((LineIndex.ofText text.toList).lineCol earlier) <
          toLex (line.toNat, column.toNat) := by
  obtain ⟨line, column, computed, position⟩ := LineIndex.exists_lineColWords? short below
  obtain ⟨start, begins, exact⟩ := LineIndex.lineCol_ofText text offset.toNat
  have lineColEq := position.symm.trans exact
  rw [Prod.mk.injEq] at lineColEq
  refine ⟨line, column, start, computed, position, lineColEq.1, fun other => ?_, lineColEq.2, ?_,
    ?_⟩
  · exact ⟨begins.unique, fun same => same ▸ begins⟩
  · rw [← position]
    exact LineIndex.offsetAt?_lineCol _ _
  · intro earlier before
    rw [← position, Prod.Lex.toLex_lt_toLex]
    exact LineIndex.lineCol_lt _ before

theorem line_positions_are_exact_pastTheEnd :
    byteLength "a\r\nü\n".toList < UInt32.size ∧ (8 : UInt32).toNat < UInt32.size - 1 ∧
      LineIndex.lineColWords? (LineIndex.ofText "a\r\nü\n".toList).words 8 = some (3, 3) := by
  have short : byteLength "a\r\nü\n".toList < UInt32.size := by decide
  have below : (8 : UInt32).toNat < UInt32.size - 1 := by decide
  obtain ⟨line, column, start, computed, position, -⟩ := line_positions_are_exact short below
  have known : (LineIndex.ofText "a\r\nü\n".toList).lineCol (8 : UInt32).toNat = (3, 3) := by decide
  rw [known, Prod.mk.injEq] at position
  obtain rfl : 3 = line := UInt32.toNat_inj.mp position.1
  obtain rfl : 3 = column := UInt32.toNat_inj.mp position.2
  exact ⟨short, below, computed⟩

end ScriptLint
