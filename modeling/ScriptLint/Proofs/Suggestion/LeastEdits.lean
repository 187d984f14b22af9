import Mathlib.Order.Bounds.Defs
import Mathlib.Tactic.Common
import ScriptLint.EditDistance

/-!
# The edit distance is least

The row of a text begins with its distance and goes on with the row of the text without its first
character, which gives the distance as a recursion over both texts.  By this recursion one edit
changes the distance to any third text by at most one, wherever in the text it is made.  So no
sequence of edits is shorter than the distance, and the recursion itself shows a sequence of that
length.
-/

namespace ScriptLint

theorem EditDistance.row_nil (source : List Char) : row source [] = [source.length] := by
  induction source with
  | nil => rfl
  | cons c rest ih =>
      change rowBefore c [] (row rest []) = _
      simp [ih, rowBefore]

theorem EditDistance.row_cons (source : List Char) (d : Char) (target : List Char) :
    row source (d :: target) = editDistance source (d :: target) :: row source target := by
  induction source with
  | nil => rfl
  | cons c rest ih =>
      have unfolded : row (c :: rest) (d :: target) =
          rowBefore c (d :: target) (row rest (d :: target)) := rfl
      rw [editDistance, unfolded, ih]
      rfl

@[simp]
theorem editDistance_nil_left (target : List Char) : editDistance [] target = target.length := by
  cases target <;> rfl

@[simp]
theorem editDistance_nil_right (source : List Char) : editDistance source [] = source.length := by
  simp [editDistance, EditDistance.row_nil]

theorem editDistance_cons_cons (c d : Char) (source target : List Char) :
    editDistance (c :: source) (d :: target) =
      if c = d then editDistance source target
      else 1 + min (editDistance source target)
        (min (editDistance source (d :: target)) (editDistance (c :: source) target)) := by
  have unfolded : EditDistance.row (c :: source) (d :: target) =
      EditDistance.rowBefore c (d :: target) (EditDistance.row source (d :: target)) := rfl
  rw [editDistance, unfolded, EditDistance.row_cons]
  rfl

theorem editDistance_comm (source target : List Char) :
    editDistance source target = editDistance target source := by
  induction source generalizing target with
  | nil => simp
  | cons c source sourceIh =>
      induction target with
      | nil => simp
      | cons d target targetIh =>
          rw [editDistance_cons_cons, editDistance_cons_cons, sourceIh target,
            sourceIh (d :: target), targetIh]
          by_cases same : c = d
          · simp [same]
          · rw [if_neg same, if_neg (Ne.symm same)]
            omega

/-- A character at the front changes the distance by at most one. -/
theorem editDistance_cons_near (c : Char) (source target : List Char) :
    editDistance (c :: source) target ≤ editDistance source target + 1 ∧
      editDistance source target ≤ editDistance (c :: source) target + 1 := by
  match target with
  | [] =>
      simp only [editDistance_nil_right, List.length_cons]
      omega
  | d :: target =>
      have across := editDistance_cons_near c source target
      -- The same of the other text, whose first character is `d`.
      have along := editDistance_cons_near d target source
      rw [editDistance_comm (d :: target), editDistance_comm target] at along
      rw [editDistance_cons_cons]
      split_ifs <;> omega
termination_by source.length + target.length

theorem editDistance_replaced_near (c d : Char) (source target : List Char) :
    editDistance (d :: source) target ≤ editDistance (c :: source) target + 1 := by
  induction target with
  | nil => simp
  | cons e target ih =>
      have behind := editDistance_cons_near d source target
      have along := editDistance_cons_near e target source
      rw [editDistance_comm (e :: target), editDistance_comm target] at along
      rw [editDistance_cons_cons, editDistance_cons_cons]
      split_ifs <;> omega

/-- A change of the distance by at most one stays one behind characters in front. -/
theorem editDistance_append_near {before after : List Char}
    (near : ∀ target, editDistance after target ≤ editDistance before target + 1)
    (front target : List Char) :
    editDistance (front ++ after) target ≤ editDistance (front ++ before) target + 1 := by
  induction front generalizing target with
  | nil => exact near target
  | cons c front frontIh =>
      induction target with
      | nil =>
          have lengths := frontIh []
          simp only [editDistance_nil_right, List.cons_append, List.length_cons] at lengths ⊢
          omega
      | cons d target targetIh =>
          have both := frontIh target
          have first := frontIh (d :: target)
          rw [List.cons_append, List.cons_append] at targetIh ⊢
          rw [editDistance_cons_cons, editDistance_cons_cons]
          split_ifs <;> omega

/-- The edits of a text: a character is inserted, deleted or replaced by another. -/
inductive Edit : List Char → List Char → Prop where
  | insertion (front : List Char) (c : Char) (back : List Char) :
      Edit (front ++ back) (front ++ c :: back)
  | deletion (front : List Char) (c : Char) (back : List Char) :
      Edit (front ++ c :: back) (front ++ back)
  | substitution (front : List Char) (c d : Char) (back : List Char) :
      Edit (front ++ c :: back) (front ++ d :: back)

/-- Whether so many edits, one after another, turn one text into another. -/
inductive Edits : Nat → List Char → List Char → Prop where
  | none (text : List Char) : Edits 0 text text
  | next {count : Nat} {source between target : List Char} (first : Edit source between)
      (rest : Edits count between target) : Edits (count + 1) source target

theorem Edit.editDistance_le {source between : List Char} (edit : Edit source between)
    (target : List Char) : editDistance source target ≤ editDistance between target + 1 := by
  cases edit with
  | insertion front c back =>
      exact editDistance_append_near (fun target => (editDistance_cons_near c back target).2)
        front target
  | deletion front c back =>
      exact editDistance_append_near (fun target => (editDistance_cons_near c back target).1)
        front target
  | substitution front c d back =>
      exact editDistance_append_near (fun target => editDistance_replaced_near d c back target)
        front target

theorem Edit.cons {source target : List Char} (edit : Edit source target) (c : Char) :
    Edit (c :: source) (c :: target) := by
  cases edit with
  | insertion front d back => exact .insertion (c :: front) d back
  | deletion front d back => exact .deletion (c :: front) d back
  | substitution front d e back => exact .substitution (c :: front) d e back

namespace Edits

variable {count : Nat} {source target : List Char}

theorem cons (edits : Edits count source target) (c : Char) :
    Edits count (c :: source) (c :: target) := by
  induction edits with
  | none text => exact .none (c :: text)
  | next first rest ih => exact .next (first.cons c) ih

theorem trans {later : Nat} {last : List Char} (edits : Edits count source target)
    (onward : Edits later target last) : Edits (count + later) source last := by
  induction edits with
  | none text =>
      rw [Nat.zero_add]
      exact onward
  | next first rest ih =>
      rw [Nat.succ_add]
      exact .next first (ih onward)

/-- Each edit changes the length by at most one. -/
theorem length_near (edits : Edits count source target) :
    target.length ≤ source.length + count ∧ source.length ≤ target.length + count := by
  induction edits with
  | none text => exact ⟨Nat.le_refl _, Nat.le_refl _⟩
  | next first rest ih =>
      cases first <;> simp only [List.length_append, List.length_cons] at ih ⊢ <;> omega

theorem inserted (front added back : List Char) :
    Edits added.length (front ++ back) (front ++ (added ++ back)) := by
  induction added generalizing front with
  | nil => exact .none _
  | cons c added ih =>
      have onward := ih (front ++ [c])
      simp only [List.append_assoc, List.cons_append, List.nil_append] at onward
      exact .next (.insertion front c back) onward

end Edits

theorem editDistance_self (text : List Char) : editDistance text text = 0 := by
  induction text with
  | nil => rfl
  | cons c rest ih => rw [editDistance_cons_cons, if_pos rfl, ih]

theorem Edits.editDistance_le {count : Nat} {source target : List Char}
    (edits : Edits count source target) : editDistance source target ≤ count := by
  induction edits with
  | none text => exact Nat.le_of_eq (editDistance_self text)
  | next first rest ih => exact Nat.le_trans (first.editDistance_le _) (Nat.succ_le_succ ih)

theorem edits_editDistance (source target : List Char) :
    Edits (editDistance source target) source target := by
  induction source generalizing target with
  | nil =>
      induction target with
      | nil => exact .none []
      | cons d target ih =>
          rw [editDistance_nil_left] at ih ⊢
          exact .next (.insertion [] d []) (ih.cons d)
  | cons c source sourceIh =>
      induction target with
      | nil =>
          have emptied := sourceIh []
          rw [editDistance_nil_right] at emptied ⊢
          exact .next (.deletion [] c source) emptied
      | cons d target targetIh =>
          rw [editDistance_cons_cons]
          split_ifs with same
          · rw [same]
            exact (sourceIh target).cons d
          · -- The least of the three ways on tells which edit comes first.
            generalize least : 1 + min (editDistance source target)
              (min (editDistance source (d :: target)) (editDistance (c :: source) target)) = count
            obtain replaced | deleted | inserted : count = editDistance source target + 1 ∨
                count = editDistance source (d :: target) + 1 ∨
                  count = editDistance (c :: source) target + 1 := by omega
            · rw [replaced]
              exact .next (.substitution [] c d source) ((sourceIh target).cons d)
            · rw [deleted]
              exact .next (.deletion [] c source) (sourceIh (d :: target))
            · rw [inserted]
              exact .next (.insertion [] d (c :: source)) (targetIh.cons d)

/-- The edit distance of two texts is the least number of edits that turn one into the other. -/
theorem editDistance_isLeast (source target : List Char) :
    IsLeast {count | Edits count source target} (editDistance source target) :=
  ⟨edits_editDistance source target, fun _ => Edits.editDistance_le⟩

theorem editDistance_le_max_length (source target : List Char) :
    editDistance source target ≤ max source.length target.length := by
  induction source generalizing target with
  | nil => simp
  | cons c source ih =>
      cases target with
      | nil => simp
      | cons d target =>
          have behind := ih target
          rw [editDistance_cons_cons]
          simp only [List.length_cons]
          split_ifs <;> omega

/-- A text is as far from a part of it as the part is shorter. -/
theorem editDistance_of_isInfix {part whole : List Char} (occurs : part <:+: whole) :
    editDistance part whole = whole.length - part.length := by
  obtain ⟨front, back, rfl⟩ := occurs
  have before := Edits.inserted [] front part
  have behind := Edits.inserted (front ++ part) back []
  rw [List.append_nil, List.append_nil] at behind
  have enough := (before.trans behind).editDistance_le
  have needed := (edits_editDistance part (front ++ part ++ back)).length_near.1
  simp only [List.nil_append, List.length_append] at enough needed ⊢
  omega

end ScriptLint
