/-!
# Tables of code points

A property of characters is given by the ranges of code points that have it, listed in ascending
order, so that a look-up can stop at the first range beyond the character.
-/

namespace ScriptLint.Text

/-- Whether a code point lies in one of the ranges, which ascend and include both ends. -/
def inRanges (point : Nat) : List (Nat × Nat) → Bool
  | [] => false
  | (first, last) :: later =>
    if point < first then false else point ≤ last || inRanges point later

end ScriptLint.Text
