import ScriptLint.Proofs.Json.DecodedRecord
import ScriptLint.Proofs.Table.Merging

/-!
# What changes leave in a table

A table that has been changed allows just the calls that its changes add up to.  These are told
from the changes themselves: a call that was inserted or merged stays allowed until the table is
replaced, and of the members of a text that replaces it the last one with a name counts, with its
numbers in any order and any repetition.
-/

namespace ScriptLint

/-- The members of a text that stands for a table, as they are written. -/
def writtenMethods? (text : String) : Option (List (String × List Nat)) :=
  (Json.parse? text).bind (Json.asMapOf? (Json.asListOf? (Json.asNatBelow? (Nat.pow 2 64))))

namespace MethodTable

variable {table : MethodTable} {name other : String} {arities : AritySet} {arity : Nat}

/-- A decoded table is assigned member by member. -/
theorem decode?_parse? (text : String) :
    (Json.parse? text).bind decode? = (writtenMethods? text).map fun members =>
      members.foldl (fun table member => table.assign member.1 (.ofList member.2)) empty := by
  have decodeEq : AritySet.decode? =
      fun inner => (inner.asListOf? (Json.asNatBelow? (Nat.pow 2 64))).map AritySet.ofList := rfl
  cases parsed : Json.parse? text with
  | none => simp [writtenMethods?, parsed]
  | some value =>
      rw [writtenMethods?, parsed, Option.bind_some, Option.bind_some, decode?, decodeEq,
        Json.asMapOf?_map]
      cases value.asMapOf? _ with
      | none => rfl
      | some members => simp [List.foldl_map]

theorem allows_assign :
    (table.assign name arities).allows other arity ↔
      (other = name ∧ arity ∈ arities.toList) ∨ (other ≠ name ∧ table.allows other arity) := by
  rw [assign, allows_adjoin, allows_iff, allows_iff]
  simp only [List.mem_filter, bne_iff_ne, ne_eq]
  grind

/-- Whether the last one of the members with a name has a number. -/
def LastHas (members : List (String × List Nat)) (name : String) (arity : Nat) : Prop :=
  ∃ numbers, members.reverse.lookup name = some numbers ∧ arity ∈ numbers

theorem allows_foldl_assign {members : List (String × List Nat)} :
    (members.foldl (fun table member => table.assign member.1 (.ofList member.2)) table).allows
        name arity ↔
      LastHas members name arity ∨
        (members.reverse.lookup name = none ∧ table.allows name arity) := by
  induction members generalizing table with
  | nil => simp [LastHas]
  | cons first rest ih =>
      obtain ⟨firstName, firstNumbers⟩ := first
      rw [List.foldl_cons, ih, allows_assign, LastHas, LastHas, List.reverse_cons,
        List.lookup_append, AritySet.mem_toList_ofList]
      cases rest.reverse.lookup name with
      | some numbers => simp
      | none =>
          by_cases same : name = firstName
          · simp [same]
          · simp [List.lookup_cons, same, beq_eq_false_iff_ne.mpr same]

namespace Change

/-- The calls that are allowed after a change, for those that were allowed before it. -/
def extend (allowed : String → Nat → Prop) : Change → String → Nat → Prop
  | insert name arity => fun other number => (other = name ∧ number = arity) ∨ allowed other number
  | merge added => fun other number => allowed other number ∨ added.allows other number
  | collect pairs => fun other number => (other, number) ∈ pairs
  | decode text =>
    match writtenMethods? text with
    | none => allowed
    | some members => LastHas members

/-- The calls that changes of the table without methods allow. -/
def allowedAfter (changes : List Change) : String → Nat → Prop :=
  changes.foldl extend fun _ _ => False

theorem allows_apply {allowed : String → Nat → Prop}
    (held : ∀ name arity, table.allows name arity ↔ allowed name arity) (change : Change)
    (name : String) (arity : Nat) :
    (change.apply table).allows name arity ↔ change.extend allowed name arity := by
  cases change with
  | insert added number =>
      simp only [apply, extend, allows_insert, held]
  | merge added =>
      simp only [apply, extend, allows_merge, held]
  | collect pairs =>
      exact allows_ofPairs
  | decode text =>
      rw [apply, extend, decode?_parse?]
      cases writtenMethods? text with
      | none => exact held name arity
      | some members =>
          rw [Option.map_some, Option.getD_some, allows_foldl_assign]
          simp

theorem allows_foldl_apply {allowed : String → Nat → Prop}
    (held : ∀ name arity, table.allows name arity ↔ allowed name arity) (changes : List Change)
    (name : String) (arity : Nat) :
    (changes.foldl apply table).allows name arity ↔ changes.foldl extend allowed name arity := by
  induction changes generalizing table allowed with
  | nil => exact held name arity
  | cons first rest ih =>
      exact ih (allows_apply held first)

/-- A changed table allows what its changes add up to. -/
theorem allows_iff_allowedAfter {changes : List Change} :
    (changes.foldl apply empty).allows name arity ↔ allowedAfter changes name arity :=
  allows_foldl_apply (by simp) changes name arity

end Change

end MethodTable

end ScriptLint
