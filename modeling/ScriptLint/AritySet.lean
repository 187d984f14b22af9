/-!
# Sets of argument counts

A documented method may be overloaded, so the documentation gives it a set of argument counts.
The set is kept as a strictly ascending list, which makes equal sets equal as values and fixes the
order in which counts are listed.
-/

namespace ScriptLint

/-- A finite set of argument counts. -/
structure AritySet where
  toList : List Nat
  /-- They are listed in ascending order without repetition. -/
  ascending : toList.Pairwise (· < ·)
deriving DecidableEq

namespace AritySet

/-- Puts a number into an ascending list at its place, unless it is there already. -/
def insertInto (arity : Nat) : List Nat → List Nat
  | [] => [arity]
  | first :: rest =>
    if arity < first then arity :: first :: rest
    else if arity = first then first :: rest
    else first :: insertInto arity rest

theorem mem_insertInto {other arity : Nat} {members : List Nat} :
    other ∈ insertInto arity members ↔ other = arity ∨ other ∈ members := by
  induction members with
  | nil => simp [insertInto]
  | cons first rest ih => grind [insertInto]

theorem insertInto_ascending (arity : Nat) {members : List Nat}
    (ascending : members.Pairwise (· < ·)) : (insertInto arity members).Pairwise (· < ·) := by
  induction members with
  | nil => simp [insertInto]
  | cons first rest ih =>
      rw [List.pairwise_cons] at ascending
      rw [insertInto]
      split
      · rename_i smaller
        refine List.pairwise_cons.2 ⟨?_, List.pairwise_cons.2 ascending⟩
        intro other member
        rcases List.mem_cons.1 member with rfl | inRest
        · exact smaller
        · exact Nat.lt_trans smaller (ascending.1 other inRest)
      · split
        · exact List.pairwise_cons.2 ascending
        · rename_i notSmaller notEqual
          refine List.pairwise_cons.2 ⟨?_, ih ascending.2⟩
          intro other member
          rcases mem_insertInto.1 member with rfl | inRest
          · omega
          · exact ascending.1 other inRest

/-- The set without members. -/
def empty : AritySet :=
  ⟨[], List.Pairwise.nil⟩

/-- A set with one more member. -/
def insert (arities : AritySet) (arity : Nat) : AritySet :=
  ⟨insertInto arity arities.toList, insertInto_ascending arity arities.ascending⟩

def union (left right : AritySet) : AritySet :=
  right.toList.foldl insert left

def ofList (members : List Nat) : AritySet :=
  members.foldl insert empty

def contains (arities : AritySet) (arity : Nat) : Bool :=
  arities.toList.contains arity

/-- The members in ascending order, a slash between them. -/
def listing (arities : AritySet) : String :=
  "/".intercalate (arities.toList.map toString)

end AritySet

end ScriptLint
