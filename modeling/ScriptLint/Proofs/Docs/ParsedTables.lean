import ScriptLint.Docs.Layout
import ScriptLint.Proofs.Table.Contents

/-!
# Tables of parsed pages

A table that is read out of a page is built up by insertion alone.  So a method never stands in it
without an argument count, as it may in a table that is read from a file.
-/

namespace ScriptLint

namespace MethodTable

/-- Whether every method of the table has an argument count. -/
def IsFilled (table : MethodTable) : Prop :=
  ∀ entry ∈ table.entries, entry.2.toList ≠ []

variable {table left right : MethodTable} {name : String}

theorem isFilled_iff :
    table.IsFilled ↔ ∀ name, table.contains name → ∃ arity, table.allows name arity := by
  constructor
  · intro filled name found
    obtain ⟨arities, member⟩ := MethodTable.contains_iff.mp found
    obtain ⟨arity, arityMem⟩ := List.exists_mem_of_ne_nil _ (filled (name, arities) member)
    exact ⟨arity, (allows_of_mem member).mpr arityMem⟩
  · rintro counted ⟨name, arities⟩ member nothing
    obtain ⟨arity, allowed⟩ := counted name (MethodTable.contains_iff.mpr ⟨arities, member⟩)
    rw [allows_of_mem member, nothing] at allowed
    cases allowed

theorem isFilled_empty : empty.IsFilled := by
  intro entry member
  cases member

theorem isFilled_ofPairs (pairs : List (String × Nat)) : (ofPairs pairs).IsFilled := by
  rw [isFilled_iff]
  intro name found
  obtain ⟨⟨_, arity⟩, member, rfl⟩ := List.mem_map.mp (contains_ofPairs.mp found)
  exact ⟨arity, allows_ofPairs.mpr member⟩

theorem IsFilled.merge (leftFilled : left.IsFilled) (rightFilled : right.IsFilled) :
    (left.merge right).IsFilled := by
  rw [isFilled_iff] at leftFilled rightFilled ⊢
  intro name found
  rcases contains_merge.mp found with inLeft | inRight
  · obtain ⟨arity, allowed⟩ := leftFilled name inLeft
    exact ⟨arity, allows_merge.mpr (.inl allowed)⟩
  · obtain ⟨arity, allowed⟩ := rightFilled name inRight
    exact ⟨arity, allows_merge.mpr (.inr allowed)⟩

/-- In a table without idle names a method is there because of its numbers of arguments. -/
theorem IsFilled.contains_iff (filled : table.IsFilled) :
    table.contains name ↔ ∃ arity, table.allows name arity := by
  constructor
  · exact isFilled_iff.mp filled name
  · rintro ⟨arity, allowed⟩
    exact contains_of_allows allowed

theorem IsFilled.eq_of_allows_iff (leftFilled : left.IsFilled) (rightFilled : right.IsFilled)
    (same : ∀ name arity, left.allows name arity ↔ right.allows name arity) : left = right := by
  apply IsAlike.eq
  constructor
  · intro name
    rw [leftFilled.contains_iff, rightFilled.contains_iff]
    exact exists_congr (same name)
  · exact same

end MethodTable

namespace Layout

theorem isFilled_of_extract {layout : Layout} {page : DocPage} {methods : MethodTable}
    (found : layout.extract page = .ok methods) : methods.IsFilled := by
  rw [extract] at found
  cases fragments : layout.fragments page with
  | error failure =>
      rw [fragments] at found
      cases found
  | ok texts =>
      rw [fragments] at found
      cases found
      exact MethodTable.isFilled_ofPairs _

/-- Whatever the layouts, a method that they find in a page has an argument count. -/
theorem isFilled_extractAll (layouts : List Layout) (page : DocPage) :
    (extractAll layouts page).IsFilled := by
  refine List.foldlRecOn layouts _ MethodTable.isFilled_empty fun table filled layout _ => ?_
  cases found : layout.extract page with
  | error failure => exact filled
  | ok methods => exact filled.merge (isFilled_of_extract found)

end Layout

theorem isFilled_methodsOfMarkup (markup : String) : (methodsOfMarkup markup).IsFilled := by
  rw [methodsOfMarkup]
  exact Layout.isFilled_extractAll Layout.known (DocPage.ofMarkup markup)

end ScriptLint
