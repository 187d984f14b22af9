import ScriptLint.Arity
import ScriptLint.LineIndex

/-!
# Calls in a script

A script is scanned as plain text.  An anchor is a class name beginning with `GS` and a capital, a
dot, a method name, blanks, and an opening parenthesis; the shape decides, so strings and comments
are scanned like code.  A call site is an anchor with its position and the count of its arguments.
After an anchor the scan goes on behind its parenthesis, so calls among the arguments are found.
-/

namespace ScriptLint

open Text

/-- A letter or digit of ASCII, or an underscore. -/
def isNameChar (c : Char) : Bool :=
  c.isAlphanum || c == '_'

def isNameStart (c : Char) : Bool :=
  c.isAlpha || c == '_'

/-- The head of a call: what stands before its arguments. -/
structure Anchor where
  className : List Char
  methodName : List Char
  gap : List Char
deriving DecidableEq

namespace Anchor

def chars (anchor : Anchor) : List Char :=
  anchor.className ++ '.' :: anchor.methodName ++ anchor.gap ++ ['(']

/-- The anchor that a text begins with, and the text behind it. -/
def parse? : List Char → Option (Anchor × List Char)
  | 'G' :: 'S' :: c :: afterCapital =>
    if c.isUpper then
      match afterCapital.dropWhile isNameChar with
      | '.' :: m :: afterStart =>
        if isNameStart m then
          match (afterStart.dropWhile isNameChar).dropWhile isBlank with
          | '(' :: rest =>
            some
              (⟨'G' :: 'S' :: c :: afterCapital.takeWhile isNameChar,
                m :: afterStart.takeWhile isNameChar,
                (afterStart.dropWhile isNameChar).takeWhile isBlank⟩, rest)
          | _ => none
        else none
      | _ => none
    else none
  | _ => none

theorem chars_append_of_parse? {text rest : List Char} {anchor : Anchor}
    (parsed : parse? text = some (anchor, rest)) : anchor.chars ++ rest = text := by
  unfold parse? at parsed
  split at parsed
  · split at parsed
    · split at parsed
      · split at parsed
        · split at parsed
          · rename_i c afterCapital _ _ m afterStart shape _ _ _ opened
            cases parsed
            have gapEq := List.takeWhile_append_dropWhile (p := isBlank)
              (l := afterStart.dropWhile isNameChar)
            rw [opened] at gapEq
            have nameEq := List.takeWhile_append_dropWhile (p := isNameChar) (l := afterStart)
            have classEq := List.takeWhile_append_dropWhile (p := isNameChar) (l := afterCapital)
            rw [shape] at classEq
            simp only [chars, List.cons_append, List.append_assoc, List.nil_append]
            rw [gapEq, nameEq, classEq]
          · cases parsed
        · cases parsed
      · cases parsed
    · cases parsed
  · cases parsed

/-- An anchor leaves less text than it began with. -/
theorem length_lt_of_parse? {text rest : List Char} {anchor : Anchor}
    (parsed : parse? text = some (anchor, rest)) : rest.length < text.length := by
  rw [← chars_append_of_parse? parsed]
  simp only [chars, List.length_append, List.length_cons, List.length_nil]
  omega

end Anchor

/-- A call found in a script. -/
structure CallSite where
  className : String
  methodName : String
  arity : Nat
  /-- The line of the class name, from one. -/
  line : Nat
  /-- The column of the class name, in bytes from one. -/
  column : Nat
  offset : Nat
deriving DecidableEq

namespace CallSite

/-- The call site of an anchor at a byte offset, given the text behind the anchor. -/
def ofAnchor (lines : LineIndex) (offset : Nat) (anchor : Anchor) (rest : List Char) : CallSite :=
  let position := lines.lineCol offset
  ⟨String.ofList anchor.className, String.ofList anchor.methodName,
    (ArgumentList.scan rest).arity, position.1, position.2, offset⟩

end CallSite

/-- The first anchor in a text: its byte offset, counted on from the given one, the anchor, and
the text behind it. -/
def firstAnchor? (offset : Nat) : List Char → Option (Nat × Anchor × List Char)
  | [] => none
  | c :: rest =>
    match Anchor.parse? (c :: rest) with
    | some (anchor, behind) => some (offset, anchor, behind)
    | none => firstAnchor? (offset + c.utf8Size) rest

theorem length_lt_of_firstAnchor? {offset start : Nat} {text behind : List Char} {anchor : Anchor}
    (found : firstAnchor? offset text = some (start, anchor, behind)) :
    behind.length < text.length := by
  induction text generalizing offset with
  | nil => simp [firstAnchor?] at found
  | cons c rest ih =>
      rw [firstAnchor?] at found
      split at found
      · rename_i parsed
        cases found
        exact Anchor.length_lt_of_parse? parsed
      · exact Nat.lt_succ_of_lt (ih found)

/-- A place in a script up to which calls have been read. -/
structure CallCursor where
  lines : LineIndex
  offset : Nat
  rest : List Char
deriving DecidableEq

namespace CallCursor

def ofText (text : List Char) : CallCursor :=
  ⟨LineIndex.ofText text, 0, text⟩

/-- The next call of a script, and the cursor behind its opening parenthesis. -/
def next? (cursor : CallCursor) : Option (CallSite × CallCursor) :=
  match firstAnchor? cursor.offset cursor.rest with
  | some (start, anchor, behind) =>
    some
      (CallSite.ofAnchor cursor.lines start anchor behind,
        ⟨cursor.lines, start + byteLength anchor.chars, behind⟩)
  | none => none

theorem length_lt_of_next? {cursor later : CallCursor} {site : CallSite}
    (found : cursor.next? = some (site, later)) : later.rest.length < cursor.rest.length := by
  unfold next? at found
  split at found
  · rename_i anchored
    cases found
    exact length_lt_of_firstAnchor? anchored
  · cases found

def remaining (cursor : CallCursor) : List CallSite :=
  match _found : cursor.next? with
  | some (site, later) => site :: later.remaining
  | none => []
termination_by cursor.rest.length
decreasing_by exact length_lt_of_next? _found

end CallCursor

/-- The calls of a script, in the order of their parentheses. -/
def scanCalls (text : String) : List CallSite :=
  (CallCursor.ofText text.toList).remaining

end ScriptLint
