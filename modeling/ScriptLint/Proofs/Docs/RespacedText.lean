import Mathlib.Data.List.SplitBy
import ScriptLint.Markup.Lexer
import ScriptLint.Proofs.Docs.SignatureText
import ScriptLint.Proofs.Script.ArgumentLists

/-!
# Signatures with other blanks

A page shows a signature with its line ends normalized and every run of blanks collapsed.  Neither
touches what is read from the signature: blanks separate the words of a text, and it makes no
difference which blanks and how many.  Two texts with the same words and with blanks between the
same characters have the same signature, by induction on what they have in common.
-/

namespace ScriptLint

open Text

/-- The texts that differ only in their runs of blanks: the runs may be any, but none is empty in
one text only, except at the end. -/
inductive Respaced : List Char → List Char → Prop where
  | ending {left right : List Char} (leftBlank : ∀ c ∈ left, isBlank c)
      (rightBlank : ∀ c ∈ right, isBlank c) : Respaced left right
  | char {c : Char} {left right : List Char} (solid : isBlank c = false)
      (rest : Respaced left right) : Respaced (c :: left) (c :: right)
  | gap {leftGap rightGap left right : List Char} (leftBlank : ∀ c ∈ leftGap, isBlank c)
      (rightBlank : ∀ c ∈ rightGap, isBlank c) (leftFilled : leftGap ≠ [])
      (rightFilled : rightGap ≠ []) (rest : Respaced left right) :
      Respaced (leftGap ++ left) (rightGap ++ right)

namespace Respaced

variable {left right : List Char}

theorem append_solid {word : List Char} (solid : ∀ c ∈ word, isBlank c = false)
    (rest : Respaced left right) : Respaced (word ++ left) (word ++ right) := by
  induction word with
  | nil => exact rest
  | cons c later ih =>
      exact .char (solid c List.mem_cons_self) (ih fun d member =>
        solid d (List.mem_cons_of_mem c member))

theorem dropWhile_isBlank (respaced : Respaced left right) :
    Respaced (left.dropWhile isBlank) (right.dropWhile isBlank) := by
  induction respaced with
  | ending leftBlank rightBlank =>
      rw [List.dropWhile_eq_nil_iff.mpr leftBlank, List.dropWhile_eq_nil_iff.mpr rightBlank]
      exact .ending (by simp) (by simp)
  | char solid rest _ =>
      have notBlank := Bool.eq_false_iff.mp solid
      rw [List.dropWhile_cons_of_neg notBlank, List.dropWhile_cons_of_neg notBlank]
      exact .char solid rest
  | gap leftBlank rightBlank _ _ _ ih =>
      rwa [List.dropWhile_append_of_pos leftBlank, List.dropWhile_append_of_pos rightBlank]

theorem head?_isBlank {gap rest : List Char} (blank : ∀ c ∈ gap, isBlank c) (filled : gap ≠ []) :
    ∀ c ∈ (gap ++ rest).head?, isBlank c := by
  cases gap with
  | nil => exact absurd rfl filled
  | cons first later => simpa using blank first List.mem_cons_self

/-- Both texts begin with the same character, unless blanks or nothing stands at their front. -/
theorem cases_head (respaced : Respaced left right) :
    ((∀ c ∈ left.head?, isBlank c) ∧ ∀ c ∈ right.head?, isBlank c) ∨
      ∃ c leftRest rightRest, isBlank c = false ∧ left = c :: leftRest ∧
        right = c :: rightRest ∧ Respaced leftRest rightRest := by
  cases respaced with
  | ending leftBlank rightBlank =>
      exact .inl ⟨fun c member => leftBlank c (List.mem_of_mem_head? member),
        fun c member => rightBlank c (List.mem_of_mem_head? member)⟩
  | char solid rest => exact .inr ⟨_, _, _, solid, rfl, rfl, rest⟩
  | gap leftBlank rightBlank leftFilled rightFilled rest =>
      exact .inl ⟨head?_isBlank leftBlank leftFilled, head?_isBlank rightBlank rightFilled⟩

/-- A run of characters of which none is blank is the same in both texts. -/
theorem takeWhile_solid {p : Char → Bool} (solid : ∀ c, isBlank c → p c = false)
    (respaced : Respaced left right) :
    left.takeWhile p = right.takeWhile p ∧ Respaced (left.dropWhile p) (right.dropWhile p) := by
  have stops : ∀ {text : List Char}, (∀ c ∈ text.head?, isBlank c) →
      text.takeWhile p = [] ∧ text.dropWhile p = text := by
    intro text blank
    cases text with
    | nil => exact ⟨rfl, rfl⟩
    | cons c rest =>
        have stop := solid c (blank c rfl)
        simp [stop]
  induction left generalizing right with
  | nil =>
      rcases respaced.cases_head with ⟨-, rightBlank⟩ | ⟨c, leftRest, rightRest, -, absurdEq, -⟩
      · obtain ⟨taken, left⟩ := stops rightBlank
        rw [taken, left]
        exact ⟨rfl, respaced⟩
      · cases absurdEq
  | cons c rest ih =>
      rcases respaced.cases_head with
        ⟨leftBlank, rightBlank⟩ | ⟨first, leftRest, rightRest, cSolid, leftEq, rfl, later⟩
      · obtain ⟨leftTaken, leftLeft⟩ := stops leftBlank
        obtain ⟨rightTaken, rightLeft⟩ := stops rightBlank
        rw [leftTaken, leftLeft, rightTaken, rightLeft]
        exact ⟨rfl, respaced⟩
      · cases leftEq
        obtain ⟨taken, left⟩ := ih later
        rw [List.takeWhile_cons, List.takeWhile_cons, List.dropWhile_cons, List.dropWhile_cons]
        split
        · exact ⟨congrArg _ taken, left⟩
        · exact ⟨rfl, respaced⟩

/-- What is read up to a character that is no blank differs in runs of blanks only. -/
theorem takeWhile_bne {mark : Char} (solid : isBlank mark = false)
    (respaced : Respaced left right) :
    Respaced (left.takeWhile (· != mark)) (right.takeWhile (· != mark)) := by
  have runs : ∀ c, isBlank c → (c != mark) = true := by
    intro c blank
    simp only [bne_iff_ne, ne_eq]
    rintro rfl
    rw [solid] at blank
    cases blank
  induction respaced with
  | ending leftBlank rightBlank =>
      exact .ending (fun c member => leftBlank c ((List.takeWhile_sublist _).subset member))
        fun c member => rightBlank c ((List.takeWhile_sublist _).subset member)
  | @char c left right cSolid rest ih =>
      rw [List.takeWhile_cons, List.takeWhile_cons]
      split
      · exact .char cSolid ih
      · exact .ending (by simp) (by simp)
  | gap leftBlank rightBlank leftFilled rightFilled rest ih =>
      rw [List.takeWhile_append_of_pos fun c member => runs c (leftBlank c member),
        List.takeWhile_append_of_pos fun c member => runs c (rightBlank c member)]
      exact .gap leftBlank rightBlank leftFilled rightFilled ih

theorem count_eq {mark : Char} (solid : isBlank mark = false) (respaced : Respaced left right) :
    left.count mark = right.count mark := by
  have none : ∀ {gap : List Char}, (∀ c ∈ gap, isBlank c) → gap.count mark = 0 := by
    intro gap blank
    refine List.count_eq_zero.mpr fun member => ?_
    rw [blank mark member] at solid
    cases solid
  induction respaced with
  | ending leftBlank rightBlank => rw [none leftBlank, none rightBlank]
  | char cSolid rest ih => rw [List.count_cons, List.count_cons, ih]
  | gap leftBlank rightBlank leftFilled rightFilled rest ih =>
      rw [List.count_append, List.count_append, none leftBlank, none rightBlank, ih]

theorem all_isBlank_eq (respaced : Respaced left right) :
    left.all isBlank = right.all isBlank := by
  have blankGap : ∀ {gap : List Char}, (∀ c ∈ gap, isBlank c) → gap.all isBlank = true :=
    List.all_eq_true.mpr
  induction respaced with
  | ending leftBlank rightBlank => rw [blankGap leftBlank, blankGap rightBlank]
  | char cSolid rest ih => rw [List.all_cons, List.all_cons, ih]
  | gap leftBlank rightBlank leftFilled rightFilled rest ih =>
      rw [List.all_append, List.all_append, blankGap leftBlank, blankGap rightBlank, ih]

end Respaced

namespace Signature

theorem atStart?_of_blank {text : List Char} (blank : ∀ c ∈ text.head?, isBlank c) :
    atStart? text = none := by
  cases text with
  | nil => rfl
  | cons c rest =>
      have unnamed : ¬isNameStart c := fun starts => by
        have solid := isBlank_eq_false_of_isNameChar (isNameChar_of_isNameStart starts)
        rw [blank c rfl] at solid
        cases solid
      rw [atStart?, if_neg unnamed]

/-- The search for a signature goes through blanks, and stands outside of words behind them. -/
theorem first?_append_blank {gap : List Char} (blank : ∀ c ∈ gap, isBlank c) (filled : gap ≠ [])
    (rest : List Char) (insideWord : Bool) :
    first? insideWord (gap ++ rest) = first? false rest := by
  induction gap generalizing insideWord with
  | nil => exact absurd rfl filled
  | cons c later ih =>
      have cBlank := blank c List.mem_cons_self
      have unread : (if insideWord then none else atStart? (c :: (later ++ rest))) =
          none := by
        cases insideWord with
        | true => rfl
        | false =>
            rw [if_neg Bool.false_ne_true]
            exact atStart?_of_blank fun d first => Option.some.inj first ▸ cBlank
      rw [List.cons_append, first?, unread]
      dsimp only
      rw [isWordChar_eq_false_of_isBlank cBlank]
      cases later with
      | nil => rfl
      | cons d others =>
          exact ih (fun e member => blank e (List.mem_cons_of_mem c member)) (by simp) false

theorem first?_of_blank {text : List Char} (blank : ∀ c ∈ text, isBlank c) (insideWord : Bool) :
    first? insideWord text = none := by
  cases text with
  | nil => rfl
  | cons c rest =>
      have read := first?_append_blank blank (List.cons_ne_nil c rest) [] insideWord
      rw [List.append_nil] at read
      exact read

end Signature

namespace Respaced

variable {left right : List Char}

theorem ofArguments_eq (respaced : Respaced left right) :
    Arity.ofArguments left = Arity.ofArguments right := by
  have commaSolid : isBlank ',' = false := by decide
  simp only [Arity.ofArguments, isEmpty_trim, count_trim commaSolid, respaced.all_isBlank_eq,
    respaced.count_eq commaSolid]

theorem contains_eq {mark : Char} (solid : isBlank mark = false) (respaced : Respaced left right) :
    left.contains mark = right.contains mark := by
  rw [Bool.eq_iff_iff, List.contains_iff_mem, List.contains_iff_mem, ← List.count_pos_iff,
    ← List.count_pos_iff, respaced.count_eq solid]

theorem atStart?_eq (respaced : Respaced left right) :
    Signature.atStart? left = Signature.atStart? right := by
  obtain ⟨nameEq, behindName⟩ := respaced.takeWhile_solid fun c => isNameChar_eq_false_of_isBlank
  have closeSolid : isBlank ')' = false := by decide
  rcases respaced.cases_head with
    ⟨leftBlank, rightBlank⟩ | ⟨c, leftRest, rightRest, -, rfl, rfl, -⟩
  · rw [Signature.atStart?_of_blank leftBlank, Signature.atStart?_of_blank rightBlank]
  · -- The texts behind the name and the gap begin alike, with a parenthesis or without one.
    have unopened {text : List Char} (blank : ∀ c ∈ text.head?, isBlank c) :
        text.head? ≠ some '(' := fun opened => absurd (blank '(' opened) (by decide)
    rcases behindName.dropWhile_isBlank.cases_head with
      ⟨leftBlank, rightBlank⟩ | ⟨mark, leftParams, rightParams, -, leftEq, rightEq, params⟩
    · rw [Signature.atStart?_eq_none (unopened leftBlank),
        Signature.atStart?_eq_none (unopened rightBlank)]
    · by_cases opened : mark = '('
      · subst opened
        simp only [Signature.atStart?, leftEq, rightEq, nameEq, params.contains_eq closeSolid,
          (params.takeWhile_bne closeSolid).ofArguments_eq]
      · rw [Signature.atStart?_eq_none (by simp [leftEq, opened]),
          Signature.atStart?_eq_none (by simp [rightEq, opened])]

/-- Texts that differ in their runs of blanks only have the same signature. -/
theorem first?_eq (respaced : Respaced left right) (insideWord : Bool) :
    Signature.first? insideWord left = Signature.first? insideWord right := by
  induction respaced generalizing insideWord with
  | ending leftBlank rightBlank =>
      rw [Signature.first?_of_blank leftBlank, Signature.first?_of_blank rightBlank]
  | char solid rest ih =>
      rw [Signature.first?, Signature.first?, (Respaced.char solid rest).atStart?_eq, ih]
  | gap leftBlank rightBlank leftFilled rightFilled rest ih =>
      rw [Signature.first?_append_blank leftBlank leftFilled,
        Signature.first?_append_blank rightBlank rightFilled, ih]

end Respaced

open Markup in
/-- Line ends are blanks, however they are written, and so is what stands behind the text. -/
theorem respaced_normalizeLineEnds {back : List Char} (blank : ∀ c ∈ back, isBlank c)
    (text : List Char) : Respaced (normalizeLineEnds text ++ back) text := by
  have lineFeed : ∀ c ∈ ['\n'], isBlank c := List.all_eq_true.mp (by decide)
  induction text using normalizeLineEnds.induct with
  | case1 rest ih =>
      have pair : ∀ c ∈ ['\r', '\n'], isBlank c := List.all_eq_true.mp (by decide)
      rw [normalizeLineEnds]
      exact .gap lineFeed pair (by simp) (by simp) ih
  | case2 rest alone ih =>
      have single : ∀ c ∈ ['\r'], isBlank c := List.all_eq_true.mp (by decide)
      rw [normalizeLineEnds]
      exact .gap lineFeed single (by simp) (by simp) ih
      exact alone
  | case3 c rest unpaired noReturn ih =>
      rw [normalizeLineEnds]
      · cases cBlank : isBlank c with
        | false => exact .char cBlank ih
        | true =>
            have single : ∀ d ∈ [c], isBlank d := by simpa using cBlank
            exact .gap single single (by simp) (by simp) ih
      · exact unpaired
      · exact noReturn
  | case4 => exact .ending (by simpa [normalizeLineEnds] using blank) (by simp)

/-- Words are what stands between runs of blanks. -/
theorem words_append_run {run rest : List Char} {blank : Bool} (filled : run ≠ [])
    (alike : ∀ c ∈ run, isBlank c = blank) (changes : ∀ c ∈ rest.head?, isBlank c = !blank) :
    words (run ++ rest) = (if blank then [] else [run]) ++ words rest := by
  have apart : ∀ c ∈ run.getLast?, ∀ d ∈ rest.head?, (isBlank c == isBlank d) = false := by
    intro c last d first
    rw [alike c (List.mem_of_getLast? last), changes d first]
    cases blank <;> rfl
  have single : run.splitBy (fun left right => isBlank left == isBlank right) = [run] := by
    refine List.splitBy_of_isChain filled (List.Pairwise.isChain ?_)
    refine List.pairwise_of_forall_mem_list fun c cMem d dMem => ?_
    simp [alike c cMem, alike d dMem]
  have allBlank : run.all isBlank = blank := by
    obtain ⟨c, later, rfl⟩ := List.exists_cons_of_ne_nil filled
    cases blank with
    | true => exact List.all_eq_true.mpr alike
    | false => rw [List.all_cons, alike c List.mem_cons_self, Bool.false_and]
  rw [words, List.splitBy_append apart, single, List.filter_append, words]
  cases blank <;> simp [allBlank]

theorem words_dropWhile_isBlank (text : List Char) :
    words (text.dropWhile isBlank) = words text := by
  cases gap : text.takeWhile isBlank with
  | nil =>
      have whole := List.takeWhile_append_dropWhile (p := isBlank) (l := text)
      rw [gap, List.nil_append] at whole
      rw [whole]
  | cons c later =>
      have blank : ∀ d ∈ text.takeWhile isBlank, isBlank d = true := fun d =>
        List.mem_takeWhile_imp
      have read := words_append_run (by simp [gap]) blank (head?_dropWhile isBlank text)
      rw [List.takeWhile_append_dropWhile] at read
      exact read.symm

/-- A text that begins with a word is that word, a gap, and a text that begins with a word. -/
theorem exists_word_gap {text : List Char} (begins : ∀ c ∈ text.head?, isBlank c = false)
    (filled : text ≠ []) :
    ∃ word gap rest, text = word ++ (gap ++ rest) ∧ words text = word :: words rest ∧
      (∀ c ∈ word, isBlank c = false) ∧ word ≠ [] ∧ (∀ c ∈ gap, isBlank c) ∧
        (rest ≠ [] → gap ≠ []) ∧ ∀ c ∈ rest.head?, isBlank c = false := by
  let behind := text.dropWhile fun c => !isBlank c
  have textEq : text.takeWhile (fun c => !isBlank c) ++ behind = text :=
    List.takeWhile_append_dropWhile
  have behindEq : behind.takeWhile isBlank ++ behind.dropWhile isBlank = behind :=
    List.takeWhile_append_dropWhile
  have solid : ∀ c ∈ text.takeWhile fun c => !isBlank c, isBlank c = false := fun c member => by
    simpa using List.mem_takeWhile_imp member
  have stops : ∀ c ∈ behind.head?, isBlank c = true := fun c first => by
    simpa using head?_dropWhile _ text c first
  have restBegins : ∀ c ∈ (behind.dropWhile isBlank).head?, isBlank c = false :=
    head?_dropWhile isBlank behind
  have wordFilled : text.takeWhile (fun c => !isBlank c) ≠ [] := by
    obtain ⟨c, later, rfl⟩ := List.exists_cons_of_ne_nil filled
    simp [begins c rfl]
  refine ⟨_, behind.takeWhile isBlank, behind.dropWhile isBlank, ?_, ?_, solid, wordFilled,
    fun c => List.mem_takeWhile_imp, ?_, restBegins⟩
  · rw [behindEq, textEq]
  · have read := words_append_run wordFilled solid stops
    rw [textEq] at read
    rw [read, words_dropWhile_isBlank]
    rfl
  · intro restFilled empty
    obtain ⟨c, others, shape⟩ := List.exists_cons_of_ne_nil restFilled
    rw [empty, List.nil_append] at behindEq
    have blank := stops c (by rw [← behindEq, shape]; rfl)
    rw [restBegins c (by rw [shape]; rfl)] at blank
    cases blank

theorem words_ne_nil {text : List Char} (begins : ∀ c ∈ text.head?, isBlank c = false)
    (filled : text ≠ []) : words text ≠ [] := by
  obtain ⟨word, gap, rest, -, read, -⟩ := exists_word_gap begins filled
  rw [read]
  exact List.cons_ne_nil _ _

/-- A text that begins with a word differs from its collapsed form in its runs of blanks only. -/
theorem respaced_collapse {text : List Char} (begins : ∀ c ∈ text.head?, isBlank c = false) :
    Respaced text (collapse text) := by
  have space : ∀ c ∈ [' '], isBlank c := List.all_eq_true.mp (by decide)
  by_cases filled : text = []
  · rw [filled]
    exact .ending (by simp) (by simp [collapse, words])
  obtain ⟨word, gap, rest, textEq, read, solid, wordFilled, blank, gapFilled, restBegins⟩ :=
    exists_word_gap begins filled
  by_cases last : rest = []
  · have collapsed : collapse text = word ++ [] := by
      rw [collapse, read, last]
      simp [words]
    have ends : Respaced gap [] := .ending blank (by simp)
    rw [collapsed, textEq, last, List.append_nil]
    exact ends.append_solid solid
  · have shorter : rest.length < text.length := by
      have := List.length_pos_iff.mpr wordFilled
      rw [textEq, List.length_append, List.length_append]
      omega
    have collapsed : collapse text = word ++ ([' '] ++ collapse rest) := by
      rw [collapse, read, List.intercalate_cons_of_ne_nil (words_ne_nil restBegins last), collapse,
        List.append_assoc]
    have behind : Respaced (gap ++ rest) ([' '] ++ collapse rest) :=
      .gap blank space (gapFilled last) (by simp) (respaced_collapse restBegins)
    rw [collapsed, textEq]
    exact behind.append_solid solid
termination_by text.length

/-- Collapsing the blanks of a text leaves its signature as it is. -/
theorem first?_collapse (text : List Char) :
    Signature.first? false (collapse text) = Signature.first? false text := by
  have sameWords : collapse (text.dropWhile isBlank) = collapse text := by
    rw [collapse, collapse, words_dropWhile_isBlank]
  have respaced := respaced_collapse (head?_dropWhile isBlank text)
  rw [← sameWords, ← respaced.first?_eq]
  conv_rhs => rw [← List.takeWhile_append_dropWhile (p := isBlank) (l := text)]
  cases gap : text.takeWhile isBlank with
  | nil => rfl
  | cons c later =>
      rw [← gap]
      have filled : text.takeWhile isBlank ≠ [] := by simp [gap]
      exact (Signature.first?_append_blank (fun d => List.mem_takeWhile_imp) filled _ false).symm

open Markup in
/-- A signature is read from its text on a line of its own, normalized and collapsed, as it is read
from the signature itself. -/
theorem parse?_collapsedLine (signature : String) :
    Signature.parse? (String.ofList
        (collapse ('\n' :: (normalizeLineEnds signature.toList ++ ['\n'])))) =
      Signature.parse? signature := by
  have lineFeed : ∀ c ∈ ['\n'], isBlank c := List.all_eq_true.mp (by decide)
  have behindLineFeed := Signature.first?_append_blank lineFeed (by simp)
    (normalizeLineEnds signature.toList ++ ['\n']) false
  rw [Signature.parse?, String.toList_ofList, first?_collapse, Signature.parse?]
  exact behindLineFeed.trans ((respaced_normalizeLineEnds lineFeed _).first?_eq false)

end ScriptLint
