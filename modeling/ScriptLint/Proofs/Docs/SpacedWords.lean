import ScriptLint.Proofs.Docs.RespacedText

/-!
# The words of a text and its signature

What is read from a text depends on its words alone: not on the blanks between them, which may be
any and any number, and not on those before the first word or behind the last.
-/

namespace ScriptLint

open Text

/-- Texts with given words: between two words stands at least one blank. -/
inductive HasWords : List (List Char) → List Char → Prop where
  | ending {text : List Char} (blank : ∀ c ∈ text, isBlank c) : HasWords [] text
  | word {later : List (List Char)} {gap word rest : List Char} (blank : ∀ c ∈ gap, isBlank c)
      (filled : word ≠ []) (solid : ∀ c ∈ word, isBlank c = false)
      (ends : ∀ c ∈ rest.head?, isBlank c) (behind : HasWords later rest) :
      HasWords (word :: later) (gap ++ (word ++ rest))

theorem words_append_blank {gap : List Char} (blank : ∀ c ∈ gap, isBlank c) (text : List Char) :
    words (gap ++ text) = words text := by
  rw [← words_dropWhile_isBlank, List.dropWhile_append_of_pos blank, words_dropWhile_isBlank]

theorem HasWords.words_eq {found : List (List Char)} {text : List Char}
    (given : HasWords found text) : words text = found := by
  induction given with
  | @ending text blank =>
      rw [← List.append_nil text, words_append_blank blank]
      rfl
  | word blank filled solid ends behind ih =>
      rw [words_append_blank blank, words_append_run filled solid ends, ih]
      rfl

theorem hasWords_words (text : List Char) : HasWords (words text) text := by
  have divided := List.takeWhile_append_dropWhile (p := isBlank) (l := text)
  have gapBlank : ∀ c ∈ text.takeWhile isBlank, isBlank c := fun c => List.mem_takeWhile_imp
  rw [← words_dropWhile_isBlank]
  by_cases allBlank : text.dropWhile isBlank = []
  · rw [allBlank]
    exact .ending (List.dropWhile_eq_nil_iff.mp allBlank)
  obtain ⟨word, gap, rest, shape, read, solid, wordFilled, blank, gapFilled, -⟩ :=
    exists_word_gap (head?_dropWhile isBlank text) allBlank
  have shorter : gap.length + rest.length < text.length := by
    have wordPos := List.length_pos_iff.mpr wordFilled
    have sizes := congrArg List.length divided
    simp only [shape, List.length_append] at sizes
    omega
  have ends : ∀ c ∈ (gap ++ rest).head?, isBlank c := by
    by_cases empty : gap = []
    · have last : rest = [] := not_imp_not.mp gapFilled empty
      simp [empty, last]
    · exact Respaced.head?_isBlank blank empty
  have behind := hasWords_words (gap ++ rest)
  rw [words_append_blank blank] at behind
  rw [read, ← divided, shape]
  exact .word gapBlank wordFilled solid ends behind
termination_by text.length

theorem words_eq_iff {found : List (List Char)} {text : List Char} :
    words text = found ↔ HasWords found text := by
  constructor
  · rintro rfl
    exact hasWords_words text
  · exact HasWords.words_eq

namespace Signature

theorem parse?_collapseString (text : String) : parse? (collapseString text) = parse? text := by
  rw [parse?, collapseString, String.toList_ofList, first?_collapse, parse?]

/-- Collapsed and uncollapsed, a text has the same signature, and so has any other text with its
words. -/
theorem parse?_eq_of_same_words (text : String) :
    parse? (collapseString text) = parse? text ∧
      ∀ (other : String) (found : List (List Char)), HasWords found text.toList →
        HasWords found other.toList → parse? other = parse? text := by
  refine ⟨parse?_collapseString text, fun other found hasWords otherHasWords => ?_⟩
  have sameWords : words other.toList = words text.toList :=
    (words_eq_iff.mpr otherHasWords).trans (words_eq_iff.mpr hasWords).symm
  have sameCollapsed : collapseString other = collapseString text := by
    rw [collapseString, collapse, sameWords, ← collapse, ← collapseString]
  calc
    parse? other = parse? (collapseString other) := (parse?_collapseString other).symm
    _ = parse? (collapseString text) := congrArg parse? sameCollapsed
    _ = parse? text := parse?_collapseString text

end Signature

end ScriptLint
