import ScriptLint.Json.Parser
import ScriptLint.Proofs.Table.Contents
import ScriptLint.Proofs.Text.ByteOrder

/-!
# Merged and collected tables

Method tables under merging are a semilattice with the empty table as its least element, and
collecting pairs is the merge of tables with one pair each.  All this is read off from what merged
and collected tables hold, so it is true of tables with methods that take no number of arguments
too, although no list of pairs gives such a table.

However a table has been changed, its names stand in the order of their bytes.
-/

namespace ScriptLint

open Text

namespace MethodTable

theorem merge_assoc (first second third : MethodTable) :
    (first.merge second).merge third = first.merge (second.merge third) := by
  apply IsAlike.eq
  constructor
  · intro name
    simp [or_assoc]
  · intro name arity
    simp [or_assoc]

theorem merge_comm (left right : MethodTable) : left.merge right = right.merge left := by
  apply IsAlike.eq
  constructor
  · intro name
    simp [or_comm]
  · intro name arity
    simp [or_comm]

theorem merge_self (table : MethodTable) : table.merge table = table := by
  apply IsAlike.eq
  constructor <;> simp

theorem merge_empty (table : MethodTable) : table.merge empty = table := by
  rw [merge_comm, empty_merge]

/-- Neither the order of the pairs nor their repetition matters. -/
theorem ofPairs_eq_of_mem_iff {pairs others : List (String × Nat)}
    (same : ∀ pair, pair ∈ pairs ↔ pair ∈ others) : ofPairs pairs = ofPairs others := by
  apply IsAlike.eq
  constructor
  · intro name
    simp only [contains_ofPairs, List.mem_map, same]
  · intro name arity
    simp only [allows_ofPairs, same]

theorem ofPairs_append (pairs others : List (String × Nat)) :
    ofPairs (pairs ++ others) = (ofPairs pairs).merge (ofPairs others) := by
  apply IsAlike.eq
  constructor
  · intro name
    simp [contains_ofPairs]
  · intro name arity
    simp [allows_ofPairs]

inductive Change where
  | insert (name : String) (arity : Nat)
  | merge (other : MethodTable)
  /-- The table of a list of pairs takes the place of the table. -/
  | collect (pairs : List (String × Nat))
  /-- The table that a text stands for takes the place of the table, if there is one. -/
  | decode (text : String)

namespace Change

def apply (table : MethodTable) : Change → MethodTable
  | insert name arity => table.insert name arity
  | merge other => table.merge other
  | collect pairs => ofPairs pairs
  | decode text => ((Json.parse? text).bind MethodTable.decode?).getD table

end Change

theorem names_pairwise_bytes_lt (table : MethodTable) :
    table.names.Pairwise fun first second => bytes first < bytes second :=
  table.ascending.imp bytes_lt_bytes

end MethodTable

open MethodTable in
/-- Merging is associative, commutative and idempotent, and the empty table is neutral for it.  A
merged table has the methods that either table has and allows the calls that either allows.  The
table of a list of pairs depends on which pairs are in the list and on nothing else, and lists that
are put together give the merged table.  After any changes the names of a table ascend in the order
of their bytes, and so do the numbers of arguments of each. -/
theorem tables_merge_as_semilattice (first second third : MethodTable) :
    (first.merge second).merge third = first.merge (second.merge third) ∧
      first.merge second = second.merge first ∧
      first.merge first = first ∧
      first.merge .empty = first ∧ MethodTable.empty.merge first = first ∧
      (∀ name, (first.merge second).contains name ↔
        first.contains name ∨ second.contains name) ∧
      (∀ name arity, (first.merge second).allows name arity ↔
        first.allows name arity ∨ second.allows name arity) ∧
      (∀ pairs others : List (String × Nat), (∀ pair, pair ∈ pairs ↔ pair ∈ others) →
        ofPairs pairs = ofPairs others) ∧
      (∀ pairs others : List (String × Nat),
        ofPairs (pairs ++ others) = (ofPairs pairs).merge (ofPairs others)) ∧
      ∀ changes : List Change,
        let table := changes.foldl Change.apply first
        (table.names.Pairwise fun name later => bytes name < bytes later) ∧
          ∀ entry ∈ table.entries, entry.2.toList.Pairwise (· < ·) := by
  refine ⟨merge_assoc first second third, merge_comm first second, merge_self first,
    merge_empty first, empty_merge first, fun name => contains_merge,
    fun name arity => allows_merge, fun pairs others => ofPairs_eq_of_mem_iff, ofPairs_append, ?_⟩
  intro changes table
  constructor
  · exact table.names_pairwise_bytes_lt
  · intro entry _
    exact entry.2.ascending

end ScriptLint
