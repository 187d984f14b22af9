import ScriptLint.AritySet

/-!
# Method tables

What the documentation says of one class: the names of its methods and the argument counts of
each.  Names are kept in ascending order, so equal tables are equal as values.  A name may stand
with an empty set of counts when the table was read from a file.
-/

namespace ScriptLint

/-- The documented methods of a class with their argument counts. -/
structure MethodTable where
  entries : List (String × AritySet)
  /-- The names are listed in ascending order without repetition. -/
  ascending : (entries.map Prod.fst).Pairwise (· < ·)
deriving DecidableEq

namespace MethodTable

/-- Adds argument counts to a name in a list with ascending names, at the name's place. -/
def adjoinTo (name : String) (arities : AritySet) :
    List (String × AritySet) → List (String × AritySet)
  | [] => [(name, arities)]
  | (first, known) :: rest =>
    if name < first then (name, arities) :: (first, known) :: rest
    else if name = first then (first, known.union arities) :: rest
    else (first, known) :: adjoinTo name arities rest

theorem mem_names_adjoinTo {other name : String} {arities : AritySet}
    {entries : List (String × AritySet)} :
    other ∈ (adjoinTo name arities entries).map Prod.fst ↔
      other = name ∨ other ∈ entries.map Prod.fst := by
  induction entries with
  | nil => simp [adjoinTo]
  | cons first rest ih =>
      rw [adjoinTo]
      split
      · simp
      · split
        · simp_all
        · simp only [List.map_cons, List.mem_cons, ih]
          grind

theorem adjoinTo_ascending (name : String) (arities : AritySet)
    {entries : List (String × AritySet)}
    (ascending : (entries.map Prod.fst).Pairwise (· < ·)) :
    ((adjoinTo name arities entries).map Prod.fst).Pairwise (· < ·) := by
  induction entries with
  | nil => simp [adjoinTo]
  | cons first rest ih =>
      rw [List.map_cons, List.pairwise_cons] at ascending
      rw [adjoinTo]
      split
      · rename_i smaller
        refine List.pairwise_cons.2 ⟨?_, List.pairwise_cons.2 ascending⟩
        intro other member
        rcases List.mem_cons.1 member with rfl | inRest
        · exact smaller
        · exact String.lt_trans smaller (ascending.1 other inRest)
      · split
        · exact List.pairwise_cons.2 ascending
        · rename_i notSmaller notEqual
          refine List.pairwise_cons.2 ⟨?_, ih ascending.2⟩
          intro other member
          rcases mem_names_adjoinTo.1 member with rfl | inRest
          · exact Std.lt_of_le_of_ne (Std.not_lt.1 notSmaller) (Ne.symm notEqual)
          · exact ascending.1 other inRest

/-- The table without methods. -/
def empty : MethodTable :=
  ⟨[], List.Pairwise.nil⟩

def adjoin (table : MethodTable) (name : String) (arities : AritySet) : MethodTable :=
  ⟨adjoinTo name arities table.entries, adjoinTo_ascending name arities table.ascending⟩

def insert (table : MethodTable) (name : String) (arity : Nat) : MethodTable :=
  table.adjoin name (AritySet.empty.insert arity)

/-- The methods of either table, each with the counts it has in either. -/
def merge (left right : MethodTable) : MethodTable :=
  right.entries.foldl (fun table entry => table.adjoin entry.1 entry.2) left

/-- The table of a list of methods with one count each. -/
def ofPairs (pairs : List (String × Nat)) : MethodTable :=
  pairs.foldl (fun table pair => table.insert pair.1 pair.2) empty

/-- The argument counts of a method, if the table has it. -/
def arities? (table : MethodTable) (name : String) : Option AritySet :=
  table.entries.lookup name

def contains (table : MethodTable) (name : String) : Bool :=
  (table.arities? name).isSome

def allows (table : MethodTable) (name : String) (arity : Nat) : Bool :=
  (table.arities? name).any fun arities => arities.contains arity

def names (table : MethodTable) : List String :=
  table.entries.map Prod.fst

def size (table : MethodTable) : Nat :=
  table.entries.length

def isEmpty (table : MethodTable) : Bool :=
  table.entries.isEmpty

end MethodTable

end ScriptLint
