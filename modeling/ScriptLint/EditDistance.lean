/-!
# Edit distance

The number of single-character insertions, deletions and substitutions that lead from one text to
another.  It is computed row by row: a row holds the distances from one suffix of the first text to
every suffix of the second, the longest first.
-/

namespace ScriptLint

namespace EditDistance

/-- The row of the empty suffix: every remaining character of the second text is inserted. -/
def lastRow : List Char → List Nat
  | [] => [0]
  | _ :: rest => (rest.length + 1) :: lastRow rest

/-- The row of a suffix that begins with `c`, from the row of the suffix behind `c`. -/
def rowBefore (c : Char) : List Char → List Nat → List Nat
  | d :: rest, deletion :: behind =>
    let later := rowBefore c rest behind
    let cost :=
      if c = d then behind.headD 0
      else 1 + min (behind.headD 0) (min deletion (later.headD 0))
    cost :: later
  | _, row => row.map (· + 1)

def row (source target : List Char) : List Nat :=
  source.foldr (fun c behind => rowBefore c target behind) (lastRow target)

end EditDistance

/-- The least number of edits that turn one text into another. -/
def editDistance (source target : List Char) : Nat :=
  (EditDistance.row source target).headD 0

end ScriptLint
