import Mathlib.Data.List.Sort
import ScriptLint.Proofs.Table.Rebuilding

/-!
# What tables hold

Every operation on method tables is described by what it does to the two questions that a table
answers: whether it has a method, and whether a method takes a number of arguments.  Tables that
answer both alike are equal.  The first question is not idle, since a method of a table that was
read from a file may take no number of arguments at all.
-/

namespace ScriptLint

namespace AritySet

theorem mem_toList_insert {arities : AritySet} {arity other : Nat} :
    other ∈ (arities.insert arity).toList ↔ other = arity ∨ other ∈ arities.toList :=
  mem_insertInto

theorem mem_toList_foldl_insert {members : List Nat} {arities : AritySet} {arity : Nat} :
    arity ∈ (members.foldl insert arities).toList ↔ arity ∈ arities.toList ∨ arity ∈ members := by
  induction members generalizing arities with
  | nil => simp
  | cons first rest ih =>
      rw [List.foldl_cons, ih, mem_toList_insert, List.mem_cons, or_assoc, or_left_comm]

theorem mem_toList_union {left right : AritySet} {arity : Nat} :
    arity ∈ (left.union right).toList ↔ arity ∈ left.toList ∨ arity ∈ right.toList :=
  mem_toList_foldl_insert

theorem mem_toList_ofList {members : List Nat} {arity : Nat} :
    arity ∈ (ofList members).toList ↔ arity ∈ members := by
  simp [ofList, mem_toList_foldl_insert, empty]

theorem eq_of_mem_iff {first second : AritySet}
    (same : ∀ arity, arity ∈ first.toList ↔ arity ∈ second.toList) : first = second :=
  eq_of_toList_eq (first.ascending.eq_of_mem_iff second.ascending same)

end AritySet

namespace MethodTable

variable {table left right : MethodTable} {name other : String} {arities : AritySet} {arity : Nat}

theorem arities?_eq_some_iff :
    table.arities? name = some arities ↔ (name, arities) ∈ table.entries := by
  rw [arities?, List.lookup_eq_some_iff]
  constructor
  · rintro ⟨before, behind, entriesEq, -⟩
    simp [entriesEq]
  · intro member
    obtain ⟨before, behind, entriesEq⟩ := List.append_of_mem member
    refine ⟨before, behind, entriesEq, fun entry inFront => ?_⟩
    have ascending := table.ascending
    rw [entriesEq, List.map_append, List.pairwise_append] at ascending
    have lower := ascending.2.2 entry.1 (List.mem_map_of_mem inFront) name (by simp)
    have different : name ≠ entry.1 := by
      rintro rfl
      exact String.lt_irrefl _ lower
    simpa using different

theorem contains_iff : table.contains name ↔ ∃ arities, (name, arities) ∈ table.entries := by
  simp only [← arities?_eq_some_iff]
  rw [contains, Option.isSome_iff_exists]

theorem allows_iff :
    table.allows name arity ↔
      ∃ arities, (name, arities) ∈ table.entries ∧ arity ∈ arities.toList := by
  simp only [← arities?_eq_some_iff]
  rw [allows, Option.any_eq_true]
  simp [AritySet.contains]

theorem allows_of_mem (member : (name, arities) ∈ table.entries) :
    table.allows name arity ↔ arity ∈ arities.toList := by
  rw [allows, arities?_eq_some_iff.mpr member]
  simp [AritySet.contains]

theorem contains_of_allows (allowed : table.allows name arity) : table.contains name := by
  obtain ⟨arities, member, -⟩ := allows_iff.mp allowed
  exact contains_iff.mpr ⟨arities, member⟩

/-- Whether two tables have the same methods, and these take the same numbers of arguments. -/
structure IsAlike (left right : MethodTable) : Prop where
  contains_iff : ∀ name, left.contains name ↔ right.contains name
  allows_iff : ∀ name arity, left.allows name arity ↔ right.allows name arity

namespace IsAlike

theorem symm (alike : left.IsAlike right) : right.IsAlike left :=
  ⟨fun name => (alike.contains_iff name).symm, fun name arity => (alike.allows_iff name arity).symm⟩

theorem mem_entries (alike : left.IsAlike right) {entry : String × AritySet}
    (member : entry ∈ left.entries) : entry ∈ right.entries := by
  obtain ⟨name, arities⟩ := entry
  have found : left.contains name := MethodTable.contains_iff.mpr ⟨arities, member⟩
  obtain ⟨others, inRight⟩ := MethodTable.contains_iff.mp ((alike.contains_iff name).mp found)
  have same : arities = others := by
    apply AritySet.eq_of_mem_iff
    intro arity
    rw [← allows_of_mem member, alike.allows_iff, allows_of_mem inRight]
  exact same ▸ inRight

theorem eq (alike : left.IsAlike right) : left = right := by
  -- An entry is not its own successor, since its name is not.
  have strict : Std.Irrefl fun first second : String × AritySet => first.1 < second.1 :=
    ⟨fun entry => String.lt_irrefl entry.1⟩
  have asymmetric : Std.Antisymm fun first second : String × AritySet => first.1 < second.1 :=
    ⟨fun first second less more => absurd less (String.lt_asymm more)⟩
  have leftAscending := List.pairwise_map.mp left.ascending
  have rightAscending := List.pairwise_map.mp right.ascending
  apply eq_of_entries_eq
  apply leftAscending.eq_of_mem_iff rightAscending
  intro entry
  exact ⟨alike.mem_entries, alike.symm.mem_entries⟩

end IsAlike

theorem contains_adjoin :
    (table.adjoin name arities).contains other ↔ other = name ∨ table.contains other := by
  have inNames : ∀ table : MethodTable,
      table.contains other ↔ other ∈ table.entries.map Prod.fst := by
    intro table
    simp [contains_iff]
  rw [inNames, inNames]
  exact mem_names_adjoinTo

theorem exists_mem_adjoinTo_iff {entries : List (String × AritySet)} :
    (∃ found, (other, found) ∈ adjoinTo name arities entries ∧ arity ∈ found.toList) ↔
      (other = name ∧ arity ∈ arities.toList) ∨
        ∃ found, (other, found) ∈ entries ∧ arity ∈ found.toList := by
  induction entries with
  | nil => simp [adjoinTo]
  | cons first rest ih =>
      obtain ⟨firstName, known⟩ := first
      rw [adjoinTo]
      split_ifs with before same
      · simp [or_and_right, exists_or, and_assoc]
      · subst same
        simp [or_and_right, exists_or, AritySet.mem_toList_union, and_or_left, and_assoc, or_assoc,
          or_left_comm]
      · simp [or_and_right, exists_or, ih, or_left_comm]

theorem allows_adjoin :
    (table.adjoin name arities).allows other arity ↔
      (other = name ∧ arity ∈ arities.toList) ∨ table.allows other arity := by
  rw [allows_iff, allows_iff]
  exact exists_mem_adjoinTo_iff

@[simp]
theorem contains_empty : ¬empty.contains name := by
  simp [contains_iff, empty]

@[simp]
theorem allows_empty : ¬empty.allows name arity := by
  simp [allows_iff, empty]

theorem contains_insert :
    (table.insert name arity).contains other ↔ other = name ∨ table.contains other :=
  contains_adjoin

theorem allows_insert {otherArity : Nat} :
    (table.insert name arity).allows other otherArity ↔
      (other = name ∧ otherArity = arity) ∨ table.allows other otherArity := by
  have single : otherArity ∈ (AritySet.empty.insert arity).toList ↔ otherArity = arity := by
    simp [AritySet.mem_toList_insert, AritySet.empty]
  rw [insert, allows_adjoin, single]

@[simp]
theorem contains_merge :
    (left.merge right).contains name ↔ left.contains name ∨ right.contains name := by
  rw [merge, @contains_iff right]
  induction right.entries generalizing left with
  | nil => simp
  | cons first rest ih =>
      rw [List.foldl_cons, ih, contains_adjoin]
      simp [Prod.ext_iff, exists_or, or_assoc, or_left_comm]

@[simp]
theorem allows_merge :
    (left.merge right).allows name arity ↔ left.allows name arity ∨ right.allows name arity := by
  rw [merge, @allows_iff right]
  induction right.entries generalizing left with
  | nil => simp
  | cons first rest ih =>
      rw [List.foldl_cons, ih, allows_adjoin]
      simp [Prod.ext_iff, exists_or, or_and_right, and_assoc, or_assoc, or_left_comm]

theorem contains_ofPairs {pairs : List (String × Nat)} :
    (ofPairs pairs).contains name ↔ name ∈ pairs.map Prod.fst := by
  suffices added : ∀ table : MethodTable,
      (pairs.foldl (fun table pair => table.insert pair.1 pair.2) table).contains name ↔
        table.contains name ∨ name ∈ pairs.map Prod.fst by
    simpa [ofPairs] using added empty
  induction pairs with
  | nil => simp
  | cons first rest ih =>
      intro table
      rw [List.foldl_cons, ih, contains_insert, List.map_cons, List.mem_cons, or_assoc,
        or_left_comm]

theorem allows_ofPairs {pairs : List (String × Nat)} :
    (ofPairs pairs).allows name arity ↔ (name, arity) ∈ pairs := by
  suffices added : ∀ table : MethodTable,
      (pairs.foldl (fun table pair => table.insert pair.1 pair.2) table).allows name arity ↔
        table.allows name arity ∨ (name, arity) ∈ pairs by
    simpa [ofPairs] using added empty
  induction pairs with
  | nil => simp
  | cons first rest ih =>
      intro table
      rw [List.foldl_cons, ih, allows_insert, List.mem_cons, Prod.ext_iff, or_assoc, or_left_comm]

end MethodTable

end ScriptLint
