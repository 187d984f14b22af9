import ScriptLint.EditDistance
import ScriptLint.Text.LowerCase

/-!
# Suggestions for unknown names

Names are compared in lower case.  Their similarity is one less the edit distance over the greater
length, raised by a quarter, but not above one, when one contains the other.  The arithmetic is
that of any ordered number type: the program runs it on binary floating point, and exact laws are
stated over the rational numbers.
-/

namespace ScriptLint

open Text

/-- A natural number as a binary floating-point number, the nearest one. -/
instance natCastFloat : NatCast Float :=
  ⟨Float.ofNat⟩

def occursIn (part : List Char) : List Char → Bool
  | [] => part.isEmpty
  | c :: rest => part.isPrefixOf (c :: rest) || occursIn part rest

namespace Similarity

section Arithmetic

variable {α : Type} [NatCast α] [Add α] [Sub α] [Div α] [LE α] [DecidableLE α]

/-- One less the edit distance over the greater length; one for two empty texts. -/
def closeness (α : Type) [NatCast α] [Sub α] [Div α] (left right : List Char) : α :=
  let longest := max left.length right.length
  if longest = 0 then ((1 : Nat) : α)
  else ((1 : Nat) : α) - ((editDistance left right : Nat) : α) / ((longest : Nat) : α)

/-- The lesser of a number and one. -/
def capped (score : α) : α :=
  if score ≤ ((1 : Nat) : α) then score else ((1 : Nat) : α)

/-- Whether one of two texts contains the other, neither being empty. -/
def related (left right : List Char) : Bool :=
  !left.isEmpty && !right.isEmpty && (occursIn right left || occursIn left right)

def ofLower (α : Type) [NatCast α] [Add α] [Sub α] [Div α] [LE α] [DecidableLE α]
    (left right : List Char) : α :=
  let base := closeness α left right
  if related left right then capped (base + ((1 : Nat) : α) / ((4 : Nat) : α)) else base

end Arithmetic

end Similarity

/-- A known name with its similarity to the name that was looked for. -/
structure Suggestion (α : Type) where
  name : String
  /-- Its similarity, at most one. -/
  score : α

namespace Suggestion

variable {α : Type} [LE α] [DecidableLE α]

/-- Whether a suggestion may stand before another: its score is higher, or the scores are equal
and its name is not the later one. -/
def ranksBefore (left right : Suggestion α) : Bool :=
  if right.score ≤ left.score then
    if left.score ≤ right.score then left.name ≤ right.name else true
  else false

/-- A list without the suggestions that repeat the name of the one before them. -/
def dropRepeats : List (Suggestion α) → List (Suggestion α)
  | [] => []
  | first :: rest =>
    match dropRepeats rest with
    | second :: later =>
      if first.name = second.name then first :: later else first :: second :: later
    | [] => [first]

/-- The best of a list of scored names: those that reach the threshold, in order, without
repetition, and no more than the limit. -/
def best (limit : Nat) (threshold : α) (scored : List (Suggestion α)) : List (Suggestion α) :=
  let reaching := scored.filter fun suggestion => threshold ≤ suggestion.score
  (dropRepeats (reaching.mergeSort ranksBefore)).take limit

end Suggestion

/-- The names most similar to a name that is not among the candidates, best first. -/
def suggest {α : Type} [NatCast α] [Add α] [Sub α] [Div α] [LE α] [DecidableLE α]
    (candidates : List String) (query : String) (limit : Nat) (threshold : α) :
    List (Suggestion α) :=
  let lowerQuery := lower query.toList
  let others := candidates.filter fun name => name != query
  Suggestion.best limit threshold
    (others.map fun name => ⟨name, Similarity.ofLower α (lower name.toList) lowerQuery⟩)

end ScriptLint
