import ScriptLint.Proofs.Script.ArgumentLists

/-!
# Counts of joined lists

A comma between two lists makes one list of them, which has the arguments of both.  On either side
of a comma there is always an argument, also where only blanks stand, so that the blanks of a list
do not matter unless there is nothing else in it.
-/

namespace ScriptLint

open Text

/-- A text without commas as an item of a list, with blanks around it. -/
structure ListItem where
  before : List Char
  text : List Char
  behind : List Char
  isBlank_before : ∀ c ∈ before, isBlank c
  isBlank_behind : ∀ c ∈ behind, isBlank c
  comma_not_mem : ',' ∉ text

namespace ListItem

def chars (item : ListItem) : List Char :=
  item.before ++ item.text ++ item.behind

/-- The items with commas between them. -/
def listChars (items : List ListItem) : List Char :=
  [','].intercalate (items.map chars)

theorem listChars_singleton (item : ListItem) : listChars [item] = item.chars := by
  simp [listChars]

theorem listChars_cons_cons (item next : ListItem) (later : List ListItem) :
    listChars (item :: next :: later) = item.chars ++ ',' :: listChars (next :: later) := by
  simp [listChars, List.intercalate_cons_cons]

theorem comma_not_mem_chars (item : ListItem) : ',' ∉ item.chars := by
  have commaSolid : isBlank ',' = false := by decide
  intro member
  rcases List.mem_append.mp member with inFront | inBehind
  · rcases List.mem_append.mp inFront with inBefore | inText
    · rw [item.isBlank_before _ inBefore] at commaSolid
      cases commaSolid
    · exact item.comma_not_mem inText
  · rw [item.isBlank_behind _ inBehind] at commaSolid
    cases commaSolid

theorem all_isBlank_chars (item : ListItem) : item.chars.all isBlank = item.text.all isBlank := by
  have before : item.before.all isBlank = true := List.all_eq_true.mpr item.isBlank_before
  have behind : item.behind.all isBlank = true := List.all_eq_true.mpr item.isBlank_behind
  rw [chars, List.all_append, List.all_append, before, behind, Bool.true_and, Bool.and_true]

end ListItem

namespace Arity

theorem ofArguments_eq_zero_iff (text : List Char) :
    ofArguments text = 0 ↔ ∀ c ∈ text, isBlank c := by
  rw [ofArguments_eq_ite, ← List.all_eq_true]
  split <;> simp_all

/-- A text beside a comma has one argument more than it has commas itself, also if it is blank. -/
theorem max_one_ofArguments (text : List Char) : max 1 (ofArguments text) = text.count ',' + 1 := by
  have commaSolid : isBlank ',' = false := by decide
  rw [ofArguments_eq_ite]
  split
  · rename_i blank
    have unseparated : text.count ',' = 0 := by
      refine List.count_eq_zero.mpr fun member => ?_
      rw [List.all_eq_true.mp blank _ member] at commaSolid
      cases commaSolid
    rw [unseparated]
    rfl
  · omega

theorem ofArguments_append_comma (left right : List Char) :
    ofArguments (left ++ ',' :: right) = max 1 (ofArguments left) + max 1 (ofArguments right) := by
  have solid : ¬ (left ++ ',' :: right).all isBlank := by
    intro blank
    exact absurd (List.all_eq_true.mp blank ',' (by simp)) (by decide)
  rw [max_one_ofArguments, max_one_ofArguments, ofArguments_eq_ite, if_neg solid,
    List.count_append, List.count_cons_self]
  omega

theorem ofArguments_item (item : ListItem) :
    ofArguments item.chars = if item.text.all isBlank then 0 else 1 := by
  rw [ofArguments_eq_ite, item.all_isBlank_chars, List.count_eq_zero.mpr item.comma_not_mem_chars]

theorem max_one_ofArguments_listChars (item : ListItem) (later : List ListItem) :
    max 1 (ofArguments (ListItem.listChars (item :: later))) = later.length + 1 := by
  induction later generalizing item with
  | nil =>
      rw [ListItem.listChars_singleton, ofArguments_item]
      split <;> rfl
  | cons next later ih =>
      rw [ListItem.listChars_cons_cons, ofArguments_append_comma, ih, ofArguments_item,
        List.length_cons]
      split <;> omega

theorem ofArguments_listChars (first second : ListItem) (later : List ListItem) :
    ofArguments (ListItem.listChars (first :: second :: later)) = later.length + 2 := by
  have several := max_one_ofArguments_listChars first (second :: later)
  rw [ListItem.listChars_cons_cons, ofArguments_append_comma] at several ⊢
  rw [List.length_cons] at several
  omega

end Arity

/-- A comma adds the counts of what stands on its two sides, each of which is one at least.  Only
blank texts have no arguments, and a list of several items has as many as there are items, whatever
blanks stand around them. -/
theorem arity_is_additive_over_commas :
    (∀ left right : List Char, Arity.ofArguments (left ++ ',' :: right) =
      max 1 (Arity.ofArguments left) + max 1 (Arity.ofArguments right)) ∧
    (∀ text, Arity.ofArguments text = 0 ↔ ∀ c ∈ text, isBlank c) ∧
    (∀ items : List ListItem, 2 ≤ items.length →
      Arity.ofArguments (ListItem.listChars items) = items.length) ∧
    ∀ item : ListItem, Arity.ofArguments (ListItem.listChars [item]) =
      if item.text.all isBlank then 0 else 1 := by
  refine ⟨Arity.ofArguments_append_comma, Arity.ofArguments_eq_zero_iff, ?_, ?_⟩
  · intro items several
    cases items with
    | nil => cases several
    | cons first others =>
        cases others with
        | nil => exact absurd several (by simp)
        | cons second later => exact Arity.ofArguments_listChars first second later
  · intro item
    rw [ListItem.listChars_singleton, Arity.ofArguments_item]

end ScriptLint
