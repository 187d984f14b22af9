import Mathlib.Tactic.Common
import ScriptLint.Cache.Entry

/-!
# Rebuilding sets and tables

A set of argument counts is put together again from the list of its members, and a method table
from the list of its entries, because both lists are ascending: every member and every entry goes
behind those before it.
-/

namespace ScriptLint

namespace AritySet

theorem eq_of_toList_eq {first second : AritySet} (same : first.toList = second.toList) :
    first = second := by
  cases first
  cases second
  simpa using same

/-- A number that is greater than all members goes behind them. -/
theorem insertInto_of_forall_lt {arity : Nat} {members : List Nat}
    (greatest : ∀ member ∈ members, member < arity) :
    insertInto arity members = members ++ [arity] := by
  induction members with
  | nil => rfl
  | cons first rest ih =>
      have smaller := greatest first List.mem_cons_self
      rw [insertInto, if_neg (by omega), if_neg (by omega),
        ih fun member inRest => greatest member (List.mem_cons_of_mem first inRest)]
      rfl

theorem toList_foldl_insert {later : List Nat} {arities : AritySet}
    (ascending : (arities.toList ++ later).Pairwise (· < ·)) :
    (later.foldl insert arities).toList = arities.toList ++ later := by
  induction later generalizing arities with
  | nil => simp
  | cons first rest ih =>
      have inserted : (arities.insert first).toList = arities.toList ++ [first] :=
        insertInto_of_forall_lt fun member inFront =>
          (List.pairwise_append.mp ascending).2.2 member inFront first List.mem_cons_self
      rw [List.foldl_cons, ih (by simpa [inserted] using ascending), inserted]
      simp

/-- A set is the set of its members. -/
theorem ofList_toList (arities : AritySet) : ofList arities.toList = arities :=
  eq_of_toList_eq (toList_foldl_insert (by simpa [empty] using arities.ascending))

end AritySet

namespace MethodTable

variable {table : MethodTable} {name : String} {arities : AritySet}

theorem eq_of_entries_eq {first second : MethodTable} (same : first.entries = second.entries) :
    first = second := by
  cases first
  cases second
  simpa using same

/-- A name behind all names of a list is adjoined at its end. -/
theorem adjoinTo_of_forall_lt {entries : List (String × AritySet)}
    (greatest : ∀ entry ∈ entries, entry.1 < name) :
    adjoinTo name arities entries = entries ++ [(name, arities)] := by
  induction entries with
  | nil => rfl
  | cons first rest ih =>
      have smaller := greatest first List.mem_cons_self
      have notLess : ¬name < first.1 := fun less =>
        String.lt_irrefl _ (String.lt_trans smaller less)
      have notSame : name ≠ first.1 := by
        rintro rfl
        exact String.lt_irrefl _ smaller
      rw [adjoinTo, if_neg notLess, if_neg notSame,
        ih fun entry inRest => greatest entry (List.mem_cons_of_mem first inRest)]
      rfl

/-- A name behind all names of a table is assigned at its end. -/
theorem entries_assign_of_forall_lt (greatest : ∀ entry ∈ table.entries, entry.1 < name) :
    (table.assign name arities).entries = table.entries ++ [(name, arities)] := by
  have nothingLost : (table.entries.filter fun entry => entry.1 != name) = table.entries := by
    refine List.filter_eq_self.mpr fun entry member => ?_
    have notSame : entry.1 ≠ name := by
      intro same
      exact String.lt_irrefl _ (same ▸ greatest entry member)
    simpa using notSame
  show adjoinTo name arities (table.entries.filter fun entry => entry.1 != name) = _
  rw [nothingLost, adjoinTo_of_forall_lt greatest]

/-- Entries with ascending names that are added one by one stand behind one another. -/
theorem entries_foldl_of_appends {add : MethodTable → String × AritySet → MethodTable}
    (appends : ∀ (table : MethodTable) (entry : String × AritySet),
      (∀ known ∈ table.entries, known.1 < entry.1) →
        (add table entry).entries = table.entries ++ [entry])
    {later : List (String × AritySet)} {table : MethodTable}
    (ascending : ((table.entries ++ later).map Prod.fst).Pairwise (· < ·)) :
    (later.foldl add table).entries = table.entries ++ later := by
  induction later generalizing table with
  | nil => simp
  | cons first rest ih =>
      have added : (add table first).entries = table.entries ++ [first] := by
        refine appends table first fun entry inFront => ?_
        rw [List.map_append, List.pairwise_append] at ascending
        exact ascending.2.2 entry.1 (List.mem_map_of_mem inFront) first.1 (by simp)
      rw [List.foldl_cons, ih (by simpa [added] using ascending), added]
      simp

/-- A table is assigned name by name from its entries. -/
theorem foldl_assign_entries (table : MethodTable) :
    table.entries.foldl (fun table member => table.assign member.1 member.2) empty = table :=
  eq_of_entries_eq <| entries_foldl_of_appends
    (fun _ _ greatest => entries_assign_of_forall_lt greatest)
    (by simpa [empty] using table.ascending)

/-- Merging into the table without methods changes nothing. -/
theorem empty_merge (table : MethodTable) : empty.merge table = table :=
  eq_of_entries_eq <| entries_foldl_of_appends (fun _ _ greatest => adjoinTo_of_forall_lt greatest)
    (by simpa [empty] using table.ascending)

end MethodTable

end ScriptLint
