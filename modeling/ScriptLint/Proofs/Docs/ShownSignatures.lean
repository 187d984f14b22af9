import Mathlib.Data.List.Induction
import ScriptLint.Proofs.Docs.ParsedTables

/-!
# The signatures that layouts show

A page is read by any number of layouts, and each signature in a fragment that one of them shows
gets into the table, whatever the other fragments are.  So the table is known from the set of the
fragments: the layouts may be asked in any order, they may show a fragment more than once, and a
layout that fails does not count.
-/

namespace ScriptLint

theorem Signature.allows_table {texts : List String} {name : String} {arity : Nat} :
    (table texts).allows name arity ↔ ∃ text ∈ texts, parse? text = some ⟨name, arity⟩ := by
  rw [table, MethodTable.allows_ofPairs]
  constructor
  · intro member
    obtain ⟨found, foundMem, same⟩ := List.mem_map.mp member
    obtain ⟨text, textMem, parsed⟩ := List.mem_filterMap.mp foundMem
    cases same
    exact ⟨text, textMem, parsed⟩
  · rintro ⟨text, textMem, parsed⟩
    exact List.mem_map.mpr ⟨_, List.mem_filterMap.mpr ⟨text, textMem, parsed⟩, rfl⟩

namespace Layout

/-- Whether a layout shows a fragment of a page. -/
def Shows (layout : Layout) (page : DocPage) (fragment : String) : Prop :=
  ∃ fragments, layout.fragments page = .ok fragments ∧ fragment ∈ fragments

variable {layout : Layout} {layouts others : List Layout} {page : DocPage} {name : String}
variable {arity : Nat}

theorem not_shows_of_error {failure : DocsError} (fails : layout.fragments page = .error failure)
    (fragment : String) : ¬layout.Shows page fragment := by
  rintro ⟨fragments, succeeds, -⟩
  rw [fails] at succeeds
  cases succeeds

theorem extractAll_append_error {failure : DocsError}
    (fails : layout.fragments page = .error failure) :
    extractAll (layouts ++ [layout]) page = extractAll layouts page := by
  rw [extractAll, List.foldl_append, List.foldl_cons, extract, fails]
  rfl

theorem extractAll_append_ok {fragments : List String}
    (succeeds : layout.fragments page = .ok fragments) :
    extractAll (layouts ++ [layout]) page =
      (extractAll layouts page).merge (Signature.table fragments) := by
  rw [extractAll, List.foldl_append, List.foldl_cons, extract, succeeds]
  rfl

/-- What all layouts together find is what the layouts show. -/
theorem allows_extractAll :
    (extractAll layouts page).allows name arity ↔
      ∃ layout ∈ layouts, ∃ fragment, layout.Shows page fragment ∧
        Signature.parse? fragment = some ⟨name, arity⟩ := by
  -- The layouts are asked one after the other, so the induction is on the one asked last.
  induction layouts using List.reverseRecOn with
  | nil => simp [extractAll]
  | append_singleton front last ih =>
      simp only [List.mem_append, List.mem_singleton, or_and_right, exists_or, exists_eq_left]
      cases asked : last.fragments page with
      | error failure =>
          rw [extractAll_append_error asked, ih]
          simp [not_shows_of_error asked]
      | ok fragments =>
          have shows_iff : ∀ fragment, last.Shows page fragment ↔ fragment ∈ fragments := by
            intro fragment
            simp [Shows, asked]
          rw [extractAll_append_ok asked, MethodTable.allows_merge, ih, Signature.allows_table]
          simp only [shows_iff]

/-- Layouts that show the same fragments, each taken together, find the same methods. -/
theorem extractAll_congr
    (same : ∀ fragment, (∃ layout ∈ layouts, layout.Shows page fragment) ↔
      ∃ layout ∈ others, layout.Shows page fragment) :
    extractAll layouts page = extractAll others page := by
  have byFragment : ∀ (layouts : List Layout) (name : String) (arity : Nat),
      (extractAll layouts page).allows name arity ↔
        ∃ fragment, (∃ layout ∈ layouts, layout.Shows page fragment) ∧
          Signature.parse? fragment = some ⟨name, arity⟩ := by
    intro layouts name arity
    rw [allows_extractAll]
    constructor
    · rintro ⟨layout, member, fragment, shown, parsed⟩
      exact ⟨fragment, ⟨layout, member, shown⟩, parsed⟩
    · rintro ⟨fragment, ⟨layout, member, shown⟩, parsed⟩
      exact ⟨layout, member, fragment, shown, parsed⟩
  apply (isFilled_extractAll layouts page).eq_of_allows_iff (isFilled_extractAll others page)
  intro name arity
  simp only [byFragment, same]

end Layout

open Layout in
/-- The methods that any layouts find in any page are those of the signatures in the fragments that
the layouts show, and each has a number of arguments.  The same methods are found if the layouts
are asked in another order, if each of them is replaced by one that shows the same fragments in any
order and number, and if there is one more layout, in any place, that fails. -/
theorem extractAll_finds_shown_signatures (layouts : List Layout) (page : DocPage) :
    (∀ name arity, (extractAll layouts page).allows name arity ↔
        ∃ layout ∈ layouts, ∃ fragment, layout.Shows page fragment ∧
          Signature.parse? fragment = some ⟨name, arity⟩) ∧
      (∀ name, (extractAll layouts page).contains name →
        ∃ arity, (extractAll layouts page).allows name arity) ∧
      (∀ others, layouts.Perm others → extractAll others page = extractAll layouts page) ∧
      (∀ others,
        List.Forall₂ (fun layout other => ∀ fragment,
          layout.Shows page fragment ↔ other.Shows page fragment) layouts others →
        extractAll others page = extractAll layouts page) ∧
      ∀ before failing behind failure, layouts = before ++ behind →
        failing.fragments page = .error failure →
        extractAll (before ++ failing :: behind) page = extractAll layouts page := by
  refine ⟨fun name arity => allows_extractAll, ?_, ?_, ?_, ?_⟩
  · intro name found
    exact (isFilled_extractAll layouts page).contains_iff.mp found
  · intro others reordered
    apply extractAll_congr
    intro fragment
    simp only [reordered.mem_iff]
  · intro others replaced
    apply extractAll_congr
    intro fragment
    induction replaced with
    | nil => rfl
    | cons same _ ih => simp only [List.mem_cons, exists_eq_or_imp, ih, same]
  · rintro before failing behind failure rfl fails
    apply extractAll_congr
    intro fragment
    simp [not_shows_of_error fails, or_and_right, exists_or]

end ScriptLint
