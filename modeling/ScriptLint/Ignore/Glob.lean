import ScriptLint.Ignore.Pattern

/-!
# Globs

The notation in which patterns for paths are written.  A question mark stands for one byte and a
star for any number of them, but never for a slash.  Two stars stand for any number of directories
where they are a whole segment.  Brackets hold a set of characters, which is a set of bytes, and
braces hold choices.  A backslash takes the next character as it is.
-/

namespace ScriptLint

/-- What is wrong with a glob. -/
inductive GlobFault where
  /-- A closing brace has no opening one. -/
  | unopenedChoice
  /-- An opening brace has no closing one. -/
  | unclosedChoice
  | invertedRange (first last : Char)
  /-- A backslash has nothing after it. -/
  | danglingEscape
deriving DecidableEq, Repr

namespace GlobFault

def message : GlobFault → String
  | unopenedChoice =>
    "unopened alternate group; missing '\x7b' (maybe escape '\x7d' with '[\x7d]'?)"
  | unclosedChoice =>
    "unclosed alternate group; missing '\x7d' (maybe escape '\x7b' with '[\x7b]'?)"
  | invertedRange first last =>
    "invalid range; '" ++ String.ofList [first] ++ "' > '" ++ String.ofList [last] ++ "'"
  | danglingEscape => "dangling '\\'"

end GlobFault

namespace Glob

def slash : UInt8 := 47

def notSlash : ByteSet :=
  ⟨true, [(slash, slash)]⟩

/-- A piece of a glob that has been read. -/
inductive Piece where
  /-- Directories before the first name, or none. -/
  | leading
  | trailing
  /-- Directories between two names, or none. -/
  | between
  | void
  | plain (pattern : Pattern)
deriving DecidableEq, Repr

namespace Piece

def pattern : Piece → Pattern
  | leading =>
    .either (.either (.one (.single slash)) .empty) (.sequence (.many .all) (.one (.single slash)))
  | trailing => .sequence (.one (.single slash)) (.many .all)
  | between =>
    .either (.one (.single slash))
      (.sequence (.one (.single slash)) (.sequence (.many .all) (.one (.single slash))))
  | void => .empty
  | plain pattern => pattern

def ofChar (c : Char) : Piece :=
  plain (.inOrder ((String.utf8EncodeChar c).map fun byte => .one (.single byte)))

def star : Piece :=
  plain (.many notSlash)

/-- The piece for choices.  A choice that asks for nothing is none. -/
def choices (options : List (List Piece)) : Piece :=
  match options.filter fun pieces => !pieces.all (· == void) with
  | [] => void
  | asking =>
    plain (.anyOf (asking.map fun pieces => .inOrder (pieces.map pattern)))

end Piece

/-- The ranges of bytes for a range of characters.  Its two ends are taken apart into bytes, of
which the last one of the first end and the first one of the last end are the ends of a range. -/
def byteRanges (first last : Char) : List (UInt8 × UInt8) :=
  let low := String.utf8EncodeChar first
  let high := String.utf8EncodeChar last
  if first = last then low.map fun byte => (byte, byte)
  else
    low.dropLast.map (fun byte => (byte, byte)) ++
      [(low.getLastD 0, high.headD 0)] ++
      (high.drop 1).map fun byte => (byte, byte)

/-- The ranges of characters in brackets that are being read, the latest first, and whether the
latest one waits for its other end. -/
structure SetReading where
  ranges : List (Char × Char)
  /-- Whether a dash has been read after the first end of the latest range. -/
  isOpen : Bool

/-- Reads the ranges up to the closing bracket, which may be the first character: then it is in the
set.  Without a closing bracket there is no set. -/
def readRanges : Bool → SetReading → List Char →
    Except GlobFault (Option (List (Char × Char) × List Char))
  | _, _, [] => .ok none
  | isFirst, reading, c :: rest =>
    if c = ']' ∧ !isFirst then
      let ranges := if reading.isOpen then ('-', '-') :: reading.ranges else reading.ranges
      .ok (some (ranges.reverse, rest))
    else if c = '-' ∧ !isFirst ∧ !reading.isOpen then
      readRanges false { reading with isOpen := true } rest
    else
      match reading.isOpen, reading.ranges with
      | true, (first, _) :: others =>
        if c < first then .error (.invertedRange first c)
        else readRanges false ⟨(first, c) :: others, false⟩ rest
      | _, ranges => readRanges false ⟨(c, c) :: ranges, false⟩ rest

def readSet (chars : List Char) : Except GlobFault (Option (ByteSet × List Char)) :=
  let (isComplement, body) :=
    match chars with
    | '!' :: rest => (true, rest)
    | '^' :: rest => (true, rest)
    | _ => (false, chars)
  match readRanges true ⟨[], false⟩ body with
  | .error fault => .error fault
  | .ok none => .ok none
  | .ok (some (ranges, rest)) =>
    .ok (some (⟨isComplement, ranges.flatMap fun (first, last) => byteRanges first last⟩, rest))

/-- What has been read of a glob. -/
structure Reading where
  /-- The pieces of the innermost choice, the latest first. -/
  pieces : List Piece
  /-- For every open brace, the innermost first: the pieces before it, the latest first, and the
  choices that are complete, the latest first. -/
  groups : List (List Piece × List (List Piece))
  /-- Whether a bracket without a closing one has been read. -/
  hasUnclosedSet : Bool

namespace Reading

def push (reading : Reading) (piece : Piece) : Reading :=
  { reading with pieces := piece :: reading.pieces }

/-- Takes the segment of two stars in that follows a slash, in place of the slash. -/
def pushDirectories (reading : Reading) (isLast : Bool) : Reading :=
  match reading.pieces with
  | .leading :: _ => reading
  | .trailing :: _ => reading
  | _ :: earlier =>
    { reading with pieces := (if isLast then .trailing else .between) :: earlier }
  | [] => reading

/-- Whether a segment may begin after a character.  A comma or an opening brace that choices have
taken as it is counts too. -/
def beginsSegment (reading : Reading) (previous : Option Char) : Bool :=
  previous == some '/' ||
    (!reading.groups.isEmpty && (previous == some ',' || previous == some '\x7b'))

/-- Takes two stars in, which follow a character, and gives the characters left after them. -/
def pushStars (reading : Reading) (previous : Option Char) (rest : List Char) :
    Reading × List Char :=
  if reading.pieces.isEmpty then
    match rest with
    | [] => (reading.push .leading, [])
    | '/' :: later => (reading.push .leading, later)
    | _ => ((reading.push .star).push .star, rest)
  else if reading.beginsSegment previous then
    match rest with
    | [] => (reading.pushDirectories true, [])
    | c :: later =>
      if c = '/' then (reading.pushDirectories false, later)
      else if (c = ',' ∨ c = '\x7d') ∧ !reading.groups.isEmpty then
        (reading.pushDirectories true, rest)
      else ((reading.push .star).push .star, rest)
  else ((reading.push .star).push .star, rest)

/-- Begins a choice after another one, or takes a comma in where there are no choices. -/
def pushComma (reading : Reading) : Reading :=
  match reading.groups with
  | [] => reading.push (.ofChar ',')
  | (before, complete) :: outer =>
    { reading with pieces := [], groups := (before, reading.pieces :: complete) :: outer }

def close (reading : Reading) : Except GlobFault Reading :=
  match reading.groups with
  | [] => .error .unopenedChoice
  | (before, complete) :: outer =>
    let options := (reading.pieces :: complete).reverse.map List.reverse
    .ok { reading with pieces := Piece.choices options :: before, groups := outer }

/-- The pattern of a glob that has been read.  Two stars alone match everything. -/
def finish (reading : Reading) : Except GlobFault Pattern :=
  if !reading.groups.isEmpty then .error .unclosedChoice
  else
    match reading.pieces with
    | [.leading] => .ok (.many .all)
    | pieces => .ok (.inOrder (pieces.reverse.map Piece.pattern))

/-- Reads the rest of a glob after a character.  There is one step for every character at most. -/
def run : Nat → Reading → Option Char → List Char → Except GlobFault Pattern
  | 0, reading, _, _ => reading.finish
  | _, reading, _, [] => reading.finish
  | steps + 1, reading, previous, c :: rest =>
    if c = '?' then run steps (reading.push (.plain (.one notSlash))) (some c) rest
    else if c = '*' then
      match rest with
      | '*' :: later =>
        let (next, remaining) := reading.pushStars previous later
        let last := if remaining.length < later.length then '/' else '*'
        run steps next (some last) remaining
      | _ => run steps (reading.push .star) (some c) rest
    else if c = '[' ∧ !reading.hasUnclosedSet then
      match readSet rest with
      | .error fault => .error fault
      | .ok none =>
        run steps { reading.push (.ofChar c) with hasUnclosedSet := true } (some c) rest
      | .ok (some (set, later)) => run steps (reading.push (.plain (.one set))) (some ']') later
    else if c = '\x7b' then
      run steps { reading with pieces := [], groups := (reading.pieces, []) :: reading.groups }
        (some c) rest
    else if c = '\x7d' then
      match reading.close with
      | .error fault => .error fault
      | .ok closed => run steps closed (some c) rest
    else if c = ',' then run steps reading.pushComma (some c) rest
    else if c = '\\' then
      match rest with
      | [] => .error .danglingEscape
      | escaped :: later => run steps (reading.push (.ofChar escaped)) (some escaped) later
    else run steps (reading.push (.ofChar c)) (some c) rest

end Reading

def pattern (glob : List Char) : Except GlobFault Pattern :=
  Reading.run (glob.length + 1) ⟨[], [], false⟩ none glob

end Glob

end ScriptLint
