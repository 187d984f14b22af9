import ScriptLint.Markup.Reference
import ScriptLint.Markup.Selector.Basic

/-!
# Reading selectors

A selector is written as alternatives between commas.  An alternative is a row of compounds with
signs for relations between them, a blank standing for the relation to an ancestor; a compound is a
name with conditions behind it.  Comments may stand between all parts, and brackets that are open at
the end of the text are closed there.  Every reader gives back the text behind what it has read.
-/

namespace ScriptLint.Markup.Selector

/-- A text without the blanks and comments at its front. -/
def skipGaps : Bool → List Char → List Char
  | false, '/' :: '*' :: rest => skipGaps true rest
  | false, c :: rest => if isMarkupBlank c then skipGaps false rest else c :: rest
  | true, '*' :: '/' :: rest => skipGaps false rest
  | true, _ :: rest => skipGaps true rest
  | _, [] => []

/-- A text without the comments at its front. -/
def skipComments : Bool → List Char → List Char
  | false, '/' :: '*' :: rest => skipComments true rest
  | false, chars => chars
  | true, '*' :: '/' :: rest => skipComments false rest
  | true, _ :: rest => skipComments true rest
  | true, [] => []

def isLineEnd (c : Char) : Bool :=
  c == '\n' || c == '\r' || c.toNat == 12

def beginsName (c : Char) : Bool :=
  c.isAlpha || c == '_' || 128 ≤ c.toNat || c.toNat == 0

def continuesName (c : Char) : Bool :=
  beginsName c || c.isDigit || c == '-'

def startsEscape : List Char → Bool
  | '\\' :: c :: _ => !isLineEnd c
  | ['\\'] => true
  | _ => false

def startsName : List Char → Bool
  | '-' :: c :: rest => c == '-' || beginsName c || startsEscape (c :: rest)
  | c :: rest => beginsName c || startsEscape (c :: rest)
  | [] => false

/-- A text without one blank at its front. -/
def dropBlank : List Char → List Char
  | '\r' :: '\n' :: rest => rest
  | c :: rest => if isMarkupBlank c then rest else c :: rest
  | [] => []

def escapedChar (number : Nat) : Char :=
  if number = 0 ∨ 0x10FFFF < number ∨ (0xD800 ≤ number ∧ number < 0xE000) then replacementChar
  else Char.ofNat number

/-- The character that is escaped behind a backslash: by its number, or as itself. -/
def readEscape (chars : List Char) : Char × List Char :=
  match (chars.take 6).takeWhile isHexDigit with
  | [] =>
    match chars with
    | [] => (replacementChar, [])
    | c :: rest => (c, rest)
  | digits => (escapedChar (digitsIn 16 digits), dropBlank (chars.drop digits.length))

/-- The letters at the front of a text that make up a name, within a number of steps. -/
def readLetters : Nat → List Char → List Char × List Char
  | 0, chars => ([], chars)
  | _, [] => ([], [])
  | steps + 1, c :: rest =>
    if startsEscape (c :: rest) then
      let (letter, behind) := readEscape rest
      let (letters, later) := readLetters steps behind
      (letter :: letters, later)
    else if continuesName c then
      let (letters, later) := readLetters steps rest
      ((if c.toNat = 0 then replacementChar else c) :: letters, later)
    else ([], c :: rest)

def readName? (chars : List Char) : Option (String × List Char) :=
  if startsName chars then
    let (letters, rest) := readLetters chars.length chars
    some (String.ofList letters, rest)
  else none

/-- The text up to a closing quote, within a number of steps.  It may not hold the end of a line
unless that is escaped. -/
def readQuoted? (quote : Char) : Nat → List Char → Option (List Char × List Char)
  | _, [] => some ([], [])
  | 0, _ => none
  | steps + 1, c :: rest =>
    if c = quote then some ([], rest)
    else if isLineEnd c then none
    else if c = '\\' then
      match rest with
      | [] => some ([], [])
      | next :: _ =>
        if isLineEnd next then readQuoted? quote steps (dropBlank rest)
        else
          let (letter, behind) := readEscape rest
          (readQuoted? quote steps behind).map fun (letters, later) => (letter :: letters, later)
    else
      (readQuoted? quote steps rest).map fun (letters, later) =>
        ((if c.toNat = 0 then replacementChar else c) :: letters, later)

def readNameOrQuoted? (chars : List Char) : Option (String × List Char) :=
  match chars with
  | c :: rest =>
    if c = '"' ∨ c = '\'' then
      (readQuoted? c chars.length rest).map fun (letters, later) => (String.ofList letters, later)
    else readName? chars
  | [] => none

/-- The text behind the bracket that closes here; at the end of the text all brackets close. -/
def closeBracket? (closing : Char) (chars : List Char) : Option (List Char) :=
  match skipGaps false chars with
  | [] => some []
  | c :: rest => if c = closing then some rest else none

/-- The attributes whose values are compared without regard to capital letters in pages. -/
def alikeAttributes : List String :=
  ["accept", "accept-charset", "align", "alink", "axis", "bgcolor", "charset", "checked", "clear",
    "codetype", "color", "compact", "declare", "defer", "dir", "direction", "disabled", "enctype",
    "face", "frame", "hreflang", "http-equiv", "lang", "language", "link", "media", "method",
    "multiple", "nohref", "noresize", "noshade", "nowrap", "readonly", "rel", "rev", "rules",
    "scope", "scrolling", "selected", "shape", "target", "text", "type", "valign", "valuetype",
    "vlink"]

/-- The letter case for an attribute whose comparison does not give one. -/
def usualCase (name : String) : LetterCase :=
  if alikeAttributes.contains (name.map Char.toLower) then .alikeInPages else .apart

def readComparison? : List Char → Option (Comparison × List Char)
  | '=' :: rest => some (.equal, rest)
  | '~' :: '=' :: rest => some (.word, rest)
  | '|' :: '=' :: rest => some (.dashed, rest)
  | '^' :: '=' :: rest => some (.beginning, rest)
  | '$' :: '=' :: rest => some (.ending, rest)
  | '*' :: '=' :: rest => some (.inside, rest)
  | _ => none

def readLetterCase? (name : String) (chars : List Char) : Option (LetterCase × List Char) :=
  match readName? chars with
  | none => some (usualCase name, chars)
  | some (word, rest) =>
    match word.map Char.toLower with
    | "i" => some (.alike, rest)
    | "s" => some (.apart, rest)
    | _ => none

/-- The name of an attribute, which may be given for any vocabulary or for none. -/
def readAttributeName? (chars : List Char) : Option (String × List Char) :=
  match chars with
  | '*' :: rest =>
    match skipComments false rest with
    | '|' :: behind => readName? (skipComments false behind)
    | _ => none
  | '|' :: rest => readName? (skipComments false rest)
  | _ => readName? chars

def readAttribute? (chars : List Char) : Option (Selector × List Char) := do
  let (name, afterName) ← readAttributeName? (skipGaps false chars)
  match closeBracket? ']' afterName with
  | some rest => return (has name, rest)
  | none =>
    let (comparison, afterSign) ← readComparison? (skipGaps false afterName)
    let (text, afterText) ← readNameOrQuoted? (skipGaps false afterSign)
    let (letterCase, afterCase) ← readLetterCase? name (skipGaps false afterText)
    let rest ← closeBracket? ']' afterCase
    return (value name comparison text letterCase, rest)

/-- The value of the digits at the front of a text, if there are any. -/
def readCount? (chars : List Char) : Option (Int × List Char) :=
  match chars.takeWhile Char.isDigit with
  | [] => none
  | digits => some (digitsIn 10 digits, chars.dropWhile Char.isDigit)

def readSign? : List Char → Option (Int × List Char)
  | '+' :: rest => some (1, rest)
  | '-' :: rest => some (-1, rest)
  | _ => none

def readOffset? (chars : List Char) : Option (Int × List Char) :=
  match readSign? (skipGaps false chars) with
  | none => some (0, chars)
  | some (sign, rest) =>
    (readCount? (skipGaps false rest)).map fun (offset, behind) => (sign * offset, behind)

/-- A step with an offset: the word for even or odd numbers, a multiple of the letter n with an
offset, or an offset alone. -/
def readSteps? (chars : List Char) : Option ((Int × Int) × List Char) :=
  let trimmed := skipGaps false chars
  let unsigned := (readSign? trimmed).getD (1, trimmed)
  let small := (trimmed.take 5).map Char.toLower
  if "even".toList.isPrefixOf small ∨ "+even".toList.isPrefixOf small then
    some ((2, 0), unsigned.2.drop 4)
  else if "odd".toList.isPrefixOf small ∨ "+odd".toList.isPrefixOf small then
    some ((2, 1), unsigned.2.drop 3)
  else
    let counted := readCount? unsigned.2
    match (counted.map Prod.snd).getD unsigned.2 with
    | [] => counted.map fun (count, rest) => ((0, unsigned.1 * count), rest)
    | c :: rest =>
      if c = 'n' ∨ c = 'N' then
        let step := unsigned.1 * (counted.map Prod.fst).getD 1
        (readOffset? rest).map fun (offset, behind) => ((step, offset), behind)
      else counted.map fun (count, behind) => ((0, unsigned.1 * count), behind)

def outermost (sameName fromEnd : Bool) : Selector :=
  counted ⟨sameName, fromEnd⟩ 0 1

def ofWord? (word : String) : Option Selector :=
  match word.map Char.toLower with
  | "first-child" => some (outermost false false)
  | "last-child" => some (outermost false true)
  | "only-child" => some (both (outermost false false) (outermost false true))
  | "first-of-type" => some (outermost true false)
  | "last-of-type" => some (outermost true true)
  | "only-of-type" => some (both (outermost true false) (outermost true true))
  | "root" => some root
  | "empty" => some empty
  | "scope" => some scope
  | _ => none

def countingOf? (word : String) : Option Counting :=
  match word.map Char.toLower with
  | "nth-child" => some ⟨false, false⟩
  | "nth-last-child" => some ⟨false, true⟩
  | "nth-of-type" => some ⟨true, false⟩
  | "nth-last-of-type" => some ⟨true, true⟩
  | _ => none

/-- The condition on the name of an element, if a text begins with one.  The outer result fails on
a name that cannot be read. -/
def readElement? (chars : List Char) : Option (Option Selector × List Char) :=
  let local? (rest : List Char) : Option (Selector × List Char) :=
    match rest with
    | '*' :: behind => some (any, behind)
    | _ => (readName? rest).map fun (name, behind) => (named name, behind)
  match chars with
  | '*' :: rest =>
    match skipComments false rest with
    | '|' :: behind =>
      (local? (skipComments false behind)).map fun (found, later) => (some found, later)
    | _ => some (some any, rest)
  | '|' :: rest => (local? (skipComments false rest)).map fun (_, later) => (some never, later)
  | _ =>
    match readName? chars with
    | none => some (none, chars)
    | some (name, rest) =>
      match skipComments false rest with
      | '|' :: _ => none
      | _ => some (some (named name), rest)

/-- The relation that stands between two compounds, if the text goes on with another one.  A blank
alone stands for the relation to an ancestor. -/
def readRelation? (chars : List Char) : Option (Relation × List Char) :=
  match skipGaps false chars with
  | '>' :: rest => some (.parent, rest)
  | '+' :: rest => some (.previous, rest)
  | '~' :: rest => some (.earlier, rest)
  | [] => none
  | trimmed =>
    match skipComments false chars with
    | c :: _ => if isMarkupBlank c then some (.ancestor, trimmed) else none
    | [] => none

/-- A text from the next comma or closing bracket on that stands outside of brackets and quotes,
given the closing brackets that are awaited. -/
def skipAlternative : List Char → List Char → List Char
  | _, [] => []
  | awaited, c :: rest =>
    match awaited with
    | [] =>
      if c = ',' ∨ c = ')' then c :: rest
      else if c = '(' then skipAlternative [')'] rest
      else if c = '[' then skipAlternative [']'] rest
      else if c = '\x7b' then skipAlternative ['\x7d'] rest
      else if c = '"' ∨ c = '\'' then skipAlternative [c] rest
      else skipAlternative [] rest
    | closing :: others =>
      if c = closing then skipAlternative others rest
      else if closing = '"' ∨ closing = '\'' then skipAlternative awaited rest
      else if c = '(' then skipAlternative (')' :: awaited) rest
      else if c = '[' then skipAlternative (']' :: awaited) rest
      else if c = '\x7b' then skipAlternative ('\x7d' :: awaited) rest
      else if c = '"' ∨ c = '\'' then skipAlternative (c :: awaited) rest
      else skipAlternative awaited rest

/-- How a list of alternatives is read. -/
inductive ListKind where
  | strict
  | forgiving
  | anchored
deriving DecidableEq, Repr

def endsAlternative (chars : List Char) : Bool :=
  match chars with
  | [] => true
  | c :: _ => c == ',' || c == ')'

mutual

/-- The alternatives of a list, within a number of steps.  Anchored lists stand in no other one. -/
def readAlternatives (inAnchored : Bool) (kind : ListKind) :
    Nat → List Char → Option (Selector × List Char)
  | 0, _ => none
  | steps + 1, chars => do
    let attempt := (readAlternative inAnchored kind steps (skipGaps false chars)).map
      fun (found, rest) => (found, skipGaps false rest)
    let complete := attempt.filter fun (_, rest) => endsAlternative rest
    let (first, behind) ←
      match complete with
      | some found => some found
      | none => if kind = .forgiving then some (never, skipAlternative [] chars) else none
    match behind with
    | ',' :: rest =>
      let (others, later) ← readAlternatives inAnchored kind steps rest
      return (either first others, later)
    | _ => return (first, behind)

/-- One alternative, within a number of steps. -/
def readAlternative (inAnchored : Bool) (kind : ListKind) :
    Nat → List Char → Option (Selector × List Char)
  | 0, _ => none
  | steps + 1, chars =>
    if kind = .anchored then
      match readRelation? chars with
      | some (relation, rest) => readChain inAnchored steps (some (related relation anchor)) rest
      | none => readChain inAnchored steps (some (related .ancestor anchor)) chars
    else readChain inAnchored steps none chars

/-- A row of compounds, given the condition on what stands before it, within a number of steps. -/
def readChain (inAnchored : Bool) :
    Nat → Option Selector → List Char → Option (Selector × List Char)
  | 0, _, _ => none
  | steps + 1, before, chars => do
    let (element, afterElement) ← readElement? (skipGaps false chars)
    let (conditions, rest) ← readConditions inAnchored steps afterElement
    match element.toList ++ conditions with
    | [] => none
    | first :: others =>
      let compound := others.foldl both first
      let found :=
        match before with
        | some outer => both compound outer
        | none => compound
      match readRelation? rest with
      | none => return (found, rest)
      | some (relation, behind) =>
        if relation = .ancestor ∧ endsAlternative behind then return (found, behind)
        else readChain inAnchored steps (some (related relation found)) behind

/-- The conditions at the front of a text, within a number of steps. -/
def readConditions (inAnchored : Bool) : Nat → List Char → Option (List Selector × List Char)
  | 0, _ => none
  | steps + 1, chars =>
    match skipComments false chars with
    | '#' :: rest => do
      let (name, behind) ← readName? rest
      let (others, later) ← readConditions inAnchored steps behind
      return (identity name :: others, later)
    | '.' :: rest => do
      let (name, behind) ← readName? (skipComments false rest)
      let (others, later) ← readConditions inAnchored steps behind
      return (inClass name :: others, later)
    | '[' :: rest => do
      let (condition, behind) ← readAttribute? rest
      let (others, later) ← readConditions inAnchored steps behind
      return (condition :: others, later)
    | ':' :: rest => do
      let (word, behind) ← readName? (skipComments false rest)
      let (condition, later) ←
        match behind with
        | '(' :: inner => readFunction inAnchored steps word inner
        | _ => (ofWord? word).map fun condition => (condition, behind)
      let (others, last) ← readConditions inAnchored steps later
      return (condition :: others, last)
    | _ => some ([], chars)

/-- The condition that a word with brackets stands for, given the text behind the opening one,
within a number of steps. -/
def readFunction (inAnchored : Bool) : Nat → String → List Char → Option (Selector × List Char)
  | 0, _, _ => none
  | steps + 1, word, chars => do
    match countingOf? word with
    | some counting =>
      let ((step, offset), behind) ← readSteps? chars
      return (counted counting step offset, ← closeBracket? ')' behind)
    | none =>
      match word.map Char.toLower with
      | "not" =>
        let (inner, behind) ← readAlternatives inAnchored .strict steps chars
        return (except inner, ← closeBracket? ')' behind)
      | "is" =>
        let (inner, behind) ← readAlternatives inAnchored .forgiving steps chars
        return (inner, ← closeBracket? ')' behind)
      | "where" =>
        let (inner, behind) ← readAlternatives inAnchored .forgiving steps chars
        return (inner, ← closeBracket? ')' behind)
      | "has" =>
        if inAnchored then none
        else
          let (inner, behind) ← readAlternatives true .anchored steps chars
          return (surrounded inner, ← closeBracket? ')' behind)
      | _ => none

end

def ofText? (text : String) : Option Selector :=
  let chars := text.toList
  match readAlternatives false .strict (4 * chars.length + 8) chars with
  | some (selector, []) => some selector
  | _ => none

end ScriptLint.Markup.Selector
