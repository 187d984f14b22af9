import Mathlib.Data.List.Infix
import Mathlib.Data.List.TakeWhile
import Mathlib.Tactic.Common
import ScriptLint.Arity

/-!
# Argument lists inside argument lists

An argument list ends at the parenthesis that closes it.  Reading past some text changes only how
many parentheses are open, and a list that begins deeper inside another one is closed first.  So a
list that begins inside another lies inside it, with its commas.
-/

namespace ScriptLint

open Text

theorem count_dropWhile_isBlank {mark : Char} (solid : isBlank mark = false) (text : List Char) :
    (text.dropWhile isBlank).count mark = text.count mark := by
  have none : (text.takeWhile isBlank).count mark = 0 := by
    refine List.count_eq_zero.mpr fun member => ?_
    rw [List.mem_takeWhile_imp member] at solid
    cases solid
  calc
    _ = (text.takeWhile isBlank).count mark + (text.dropWhile isBlank).count mark := by
      rw [none, Nat.zero_add]
    _ = text.count mark := by rw [← List.count_append, List.takeWhile_append_dropWhile]

theorem count_trim {mark : Char} (solid : isBlank mark = false) (text : List Char) :
    (trim text).count mark = text.count mark := by
  rw [trim, trimEnd, List.count_reverse, count_dropWhile_isBlank solid, List.count_reverse,
    trimStart, count_dropWhile_isBlank solid]

theorem isEmpty_trim (text : List Char) : (trim text).isEmpty = text.all isBlank := by
  rw [Bool.eq_iff_iff, List.isEmpty_iff, trim, trimEnd, List.reverse_eq_nil_iff,
    List.dropWhile_eq_nil_iff, List.all_eq_true]
  simp only [List.mem_reverse, trimStart]
  constructor
  · intro blank c member
    rw [← List.takeWhile_append_dropWhile (p := isBlank) (l := text), List.mem_append] at member
    rcases member with inGap | inRest
    · exact List.mem_takeWhile_imp inGap
    · exact blank c inRest
  · exact fun blank c member => blank c ((List.dropWhile_sublist _).subset member)

namespace Arity

variable {depth passed index : Nat} {front back text : List Char}

theorem ofArguments_eq_ite (text : List Char) :
    ofArguments text = if text.all isBlank then 0 else text.count ',' + 1 := by
  have commaSolid : isBlank ',' = false := by decide
  simp only [ofArguments, isEmpty_trim, count_trim commaSolid]

/-- A text with more around it has at least as many arguments. -/
theorem ofArguments_le_of_infix (inside : front <:+: text) :
    ofArguments front ≤ ofArguments text := by
  rw [ofArguments_eq_ite, ofArguments_eq_ite]
  have commas : front.count ',' ≤ text.count ',' := inside.sublist.count_le ','
  by_cases blank : text.all isBlank
  · have frontBlank : front.all isBlank := by
      rw [List.all_eq_true] at blank ⊢
      exact fun c member => blank c (inside.subset member)
    rw [if_pos frontBlank]
    exact Nat.zero_le _
  · rw [if_neg blank]
    split <;> omega

@[simp]
theorem closingIndex?_open (depth passed : Nat) (rest : List Char) :
    closingIndex? depth passed ('(' :: rest) = closingIndex? (depth + 1) (passed + 1) rest :=
  rfl

@[simp]
theorem closingIndex?_close_zero (passed : Nat) (rest : List Char) :
    closingIndex? 0 passed (')' :: rest) = some passed :=
  rfl

@[simp]
theorem closingIndex?_close_succ (depth passed : Nat) (rest : List Char) :
    closingIndex? (depth + 1) passed (')' :: rest) = closingIndex? depth (passed + 1) rest :=
  rfl

theorem closingIndex?_cons {c : Char} (unopened : c ≠ '(') (unclosed : c ≠ ')')
    (depth passed : Nat) (rest : List Char) :
    closingIndex? depth passed (c :: rest) = closingIndex? depth (passed + 1) rest := by
  rw [closingIndex?.eq_def]
  simp only [if_neg unopened, if_neg unclosed]

theorem closingIndex?_add (depth passed shift : Nat) (text : List Char) :
    closingIndex? depth (passed + shift) text =
      (closingIndex? depth passed text).map (· + shift) := by
  have later (passed : Nat) : passed + shift + 1 = passed + 1 + shift := by omega
  fun_induction closingIndex? depth passed text with
  | case1 => rfl
  | case2 depth passed rest ih => rw [closingIndex?_open, later, ih]
  | case3 passed rest => rfl
  | case4 passed rest inner _ ih => rw [closingIndex?_close_succ, later, ih]
  | case5 depth passed c rest unopened unclosed ih =>
      rw [closingIndex?_cons unopened unclosed, later, ih]

/-- The closing parenthesis stands at its index. -/
theorem exists_division_of_closed (closed : closingIndex? depth passed text = some index) :
    ∃ inner rest, text = inner ++ ')' :: rest ∧ index = passed + inner.length := by
  fun_induction closingIndex? depth passed text with
  | case1 => cases closed
  | case2 depth passed rest ih =>
      obtain ⟨inner, later, rfl, rfl⟩ := ih closed
      exact ⟨'(' :: inner, later, rfl, by simp; omega⟩
  | case3 passed rest =>
      cases closed
      exact ⟨[], rest, rfl, rfl⟩
  | case4 passed rest depth _ ih =>
      obtain ⟨inner, later, rfl, rfl⟩ := ih closed
      exact ⟨')' :: inner, later, rfl, by simp; omega⟩
  | case5 depth passed c rest unopened unclosed ih =>
      obtain ⟨inner, later, rfl, rfl⟩ := ih closed
      exact ⟨c :: inner, later, rfl, by simp; omega⟩

theorem closingIndex?_append_of_closed (closed : closingIndex? depth passed front = some index)
    (back : List Char) : closingIndex? depth passed (front ++ back) = some index := by
  fun_induction closingIndex? depth passed front with
  | case1 => cases closed
  | case2 depth passed rest ih => exact ih closed
  | case3 passed rest => exact closed
  | case4 passed rest inner _ ih => exact ih closed
  | case5 depth passed c rest unopened unclosed ih =>
      rw [List.cons_append, closingIndex?_cons unopened unclosed]
      exact ih closed

/-- Behind a text that does not close a list, the list goes on as deep as the parentheses of the
text say. -/
theorem closingIndex?_append_of_unclosed (unclosed : closingIndex? depth passed front = none) :
    ∃ deeper, deeper + front.count ')' = depth + front.count '(' ∧
      ∀ back, closingIndex? depth passed (front ++ back) =
        closingIndex? deeper (passed + front.length) back := by
  have later (passed : Nat) (rest : List Char) :
      passed + 1 + rest.length = passed + (rest.length + 1) := by omega
  fun_induction closingIndex? depth passed front with
  | case1 depth passed => exact ⟨depth, rfl, fun back => rfl⟩
  | case2 depth passed rest ih =>
      obtain ⟨deeper, balance, goesOn⟩ := ih unclosed
      refine ⟨deeper, by simp; omega, fun back => ?_⟩
      rw [List.cons_append, closingIndex?_open, goesOn, List.length_cons, later]
  | case3 passed rest => cases unclosed
  | case4 passed rest inner _ ih =>
      obtain ⟨deeper, balance, goesOn⟩ := ih unclosed
      refine ⟨deeper, by simp; omega, fun back => ?_⟩
      rw [List.cons_append, closingIndex?_close_succ, goesOn, List.length_cons, later]
  | case5 depth passed c rest other same ih =>
      obtain ⟨deeper, balance, goesOn⟩ := ih unclosed
      refine ⟨deeper, by simpa [other, same] using balance, fun back => ?_⟩
      rw [List.cons_append, closingIndex?_cons other same, goesOn, List.length_cons, later]

/-- A text without parentheses changes nothing. -/
theorem closingIndex?_append (unopened : '(' ∉ front) (unclosed : ')' ∉ front)
    (depth passed : Nat) (back : List Char) :
    closingIndex? depth passed (front ++ back) =
      closingIndex? depth (passed + front.length) back := by
  induction front generalizing passed with
  | nil => rfl
  | cons c later ih =>
      rw [List.mem_cons, not_or] at unopened unclosed
      rw [List.cons_append, closingIndex?_cons (Ne.symm unopened.1) (Ne.symm unclosed.1),
        ih unopened.2 unclosed.2, List.length_cons, Nat.add_assoc, Nat.add_comm 1]

/-- From a greater depth a list is closed later, if at all. -/
theorem exists_closed_of_deeper {shallow deep passed outer : Nat} {text : List Char}
    (deeper : shallow < deep) (closed : closingIndex? deep passed text = some outer) :
    ∃ inner, closingIndex? shallow passed text = some inner ∧ inner < outer := by
  fun_induction closingIndex? deep passed text generalizing shallow with
  | case1 => cases closed
  | case2 deep passed rest ih => exact ih (by omega) closed
  | case3 passed rest => exact absurd deeper (Nat.not_lt_zero _)
  | case4 passed rest deep _ ih =>
      cases shallow with
      | zero =>
          obtain ⟨inner, later, -, rfl⟩ := exists_division_of_closed closed
          exact ⟨passed, rfl, by omega⟩
      | succ shallow => exact ih (by omega) closed
  | case5 deep passed c rest unopened unclosed ih =>
      rw [closingIndex?_cons unopened unclosed]
      exact ih deeper closed

end Arity

namespace ArgumentList

variable {front back text : List Char}

/-- Whether the parenthesis that closes an argument list was found. -/
def IsClosed (arguments : ArgumentList) : Prop :=
  arguments.consumed = arguments.inner ++ [')']

theorem scan_of_unclosed (unclosed : Arity.closingIndex? 0 0 text = none) :
    scan text = ⟨text, text⟩ := by
  rw [scan, unclosed]

theorem scan_of_closed {inner rest : List Char}
    (closed : Arity.closingIndex? 0 0 (inner ++ ')' :: rest) = some inner.length) :
    scan (inner ++ ')' :: rest) = ⟨inner, inner ++ [')']⟩ := by
  simp only [scan, closed, List.take_left, List.take_length_add_append, List.take_succ_cons,
    List.take_zero]

theorem inner_scan {params : List Char} (unopened : '(' ∉ params) (unclosed : ')' ∉ params)
    (rest : List Char) : (scan (params ++ ')' :: rest)).inner = params := by
  rw [scan_of_closed]
  rw [Arity.closingIndex?_append unopened unclosed, Arity.closingIndex?_close_zero, Nat.zero_add]

/-- The list that a text begins with is closed, or it takes the whole text. -/
theorem scan_cases (text : List Char) :
    (∃ inner rest, text = inner ++ ')' :: rest ∧
        Arity.closingIndex? 0 0 text = some inner.length ∧ scan text = ⟨inner, inner ++ [')']⟩) ∨
      Arity.closingIndex? 0 0 text = none ∧ scan text = ⟨text, text⟩ := by
  cases found : Arity.closingIndex? 0 0 text with
  | none => exact Or.inr ⟨rfl, scan_of_unclosed found⟩
  | some index =>
      obtain ⟨inner, rest, rfl, rfl⟩ := Arity.exists_division_of_closed found
      rw [Nat.zero_add] at found ⊢
      exact Or.inl ⟨inner, rest, rfl, rfl, scan_of_closed found⟩

theorem not_isClosed_whole (text : List Char) : ¬ (⟨text, text⟩ : ArgumentList).IsClosed := by
  simp [IsClosed]

/-- A list that is closed takes nothing of what is added behind the text. -/
theorem scan_append_of_isClosed (closed : (scan front).IsClosed) (back : List Char) :
    scan (front ++ back) = scan front := by
  rcases scan_cases front with ⟨inner, rest, rfl, found, scanned⟩ | ⟨-, scanned⟩
  · have stillFound := Arity.closingIndex?_append_of_closed found back
    rw [List.append_assoc, List.cons_append] at stillFound ⊢
    rw [scanned, scan_of_closed stillFound]
  · rw [scanned] at closed
    exact absurd closed (not_isClosed_whole front)

/-- A list that is closed before some place takes nothing behind it. -/
theorem consumed_within_of_closed {index : Nat}
    (closed : Arity.closingIndex? 0 0 front = some index) (back : List Char) :
    (scan (front ++ back)).consumed <+: front := by
  obtain ⟨inner, rest, rfl, rfl⟩ := Arity.exists_division_of_closed closed
  have stillClosed := Arity.closingIndex?_append_of_closed closed back
  rw [Nat.zero_add, List.append_assoc, List.cons_append] at stillClosed
  rw [List.append_assoc, List.cons_append, scan_of_closed stillClosed]
  exact ⟨rest, by simp⟩

/-- A list that begins inside another one, which is not yet closed there, lies inside it.  The
other one is closed only if this one is, and then behind it. -/
theorem scan_nested {gap : List Char} (unclosed : Arity.closingIndex? 0 0 gap = none)
    (behind : List Char) :
    ∃ beyondInner beyond,
      (scan (gap ++ '(' :: behind)).inner = gap ++ '(' :: ((scan behind).inner ++ beyondInner) ∧
      (scan (gap ++ '(' :: behind)).consumed =
        gap ++ '(' :: ((scan behind).consumed ++ beyond) ∧
      ((scan (gap ++ '(' :: behind)).IsClosed → (scan behind).IsClosed ∧ beyond ≠ []) := by
  obtain ⟨depth, -, goesOn⟩ := Arity.closingIndex?_append_of_unclosed unclosed
  have outerEq := goesOn ('(' :: behind)
  rw [Arity.closingIndex?_open, Nat.zero_add] at outerEq
  rcases scan_cases (gap ++ '(' :: behind) with
    ⟨outerInner, outerRest, textEq, outerFound, outerScanned⟩ | ⟨outerOpen, outerScanned⟩
  · -- The outer list is closed, so the inner one is closed before it.
    rw [outerEq] at outerFound
    obtain ⟨index, innerFound, before⟩ := Arity.exists_closed_of_deeper depth.succ_pos outerFound
    rw [← Nat.zero_add (gap.length + 1), Arity.closingIndex?_add, Option.map_eq_some_iff]
      at innerFound
    obtain ⟨size, innerFound, rfl⟩ := innerFound
    obtain ⟨inner, rest, rfl, rfl⟩ := Arity.exists_division_of_closed innerFound
    rw [Nat.zero_add] at innerFound before
    have innerScanned := scan_of_closed innerFound
    have closedPart : gap ++ '(' :: (inner ++ [')']) <+: gap ++ '(' :: (inner ++ ')' :: rest) :=
      ⟨rest, by simp⟩
    have outerPart : outerInner <+: gap ++ '(' :: (inner ++ ')' :: rest) :=
      ⟨')' :: outerRest, textEq.symm⟩
    have reaches := List.prefix_of_prefix_length_le closedPart outerPart (by simp; omega)
    obtain ⟨more, rfl⟩ := reaches
    rw [outerScanned, innerScanned]
    exact ⟨')' :: more, more ++ [')'], by simp, by simp, fun _ => ⟨rfl, by simp⟩⟩
  · -- The outer list takes the whole text.
    rw [outerScanned]
    have nothing (beyond : List Char) :
        (⟨gap ++ '(' :: behind, gap ++ '(' :: behind⟩ : ArgumentList).IsClosed →
          (scan behind).IsClosed ∧ beyond ≠ [] :=
      fun closed => absurd closed (not_isClosed_whole _)
    rcases scan_cases behind with ⟨inner, rest, rfl, -, innerScanned⟩ | ⟨-, innerScanned⟩
    · rw [innerScanned]
      exact ⟨')' :: rest, rest, by simp, by simp, innerScanned ▸ nothing rest⟩
    · rw [innerScanned]
      exact ⟨[], [], by simp, by simp, innerScanned ▸ nothing []⟩

end ArgumentList

end ScriptLint
