import ScriptLint.Text.Blank

/-!
# Lines and columns

Positions in a text are byte offsets.  A line index turns one into a line and a column, both
counted from one, the column in bytes.  Offsets past the end of the text belong to its last line.
-/

namespace ScriptLint

open Text

/-- The byte offsets at which the lines of a text begin. -/
structure LineIndex where
  /-- The starts after the first, which is zero, in ascending order. -/
  laterStarts : List Nat
deriving DecidableEq

namespace LineIndex

def startsAfter (offset : Nat) : List Char → List Nat
  | [] => []
  | c :: rest =>
    let next := offset + c.utf8Size
    if c = '\n' then next :: startsAfter next rest else startsAfter next rest

/-- The line index of a text: a line begins at its start and after every line feed. -/
def ofText (chars : List Char) : LineIndex :=
  ⟨startsAfter 0 chars⟩

/-- The last line start that is not after an offset, with the number of its line, given a line
that begins at or before the offset. -/
def locate (offset : Nat) : (line start : Nat) → List Nat → Nat × Nat
  | line, start, [] => (line, start)
  | line, start, next :: later =>
    if next ≤ offset then locate offset (line + 1) next later else (line, start)

def lineCol (index : LineIndex) (offset : Nat) : Nat × Nat :=
  let (line, start) := locate offset 1 0 index.laterStarts
  (line, offset - start + 1)

end LineIndex

end ScriptLint
