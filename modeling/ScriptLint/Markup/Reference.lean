import ScriptLint.Markup.ReferenceNames

/-!
# Character references

A reference stands for one or two characters: an ampersand with a name, or with the number of a
code point.  A name may lack its semicolon only if it is listed without one, and in the value of an
attribute only if no letter, digit or equals sign follows.  An ampersand that begins no reference
stands for itself.
-/

namespace ScriptLint.Markup

def splitFields (chars : List Char) : List (List Char) :=
  let isGap (c : Char) : Bool := c == ' ' || c == '\n'
  (chars.splitBy fun left right => isGap left == isGap right).filter fun part => !part.any isGap

/-- The value of a hexadecimal digit, zero for any other character. -/
def hexDigitValue (c : Char) : Nat :=
  if c.isDigit then c.toNat - 48
  else if 'a' ≤ c ∧ c ≤ 'f' then c.toNat - 87
  else if 'A' ≤ c ∧ c ≤ 'F' then c.toNat - 55
  else 0

def isHexDigit (c : Char) : Bool :=
  c.isDigit || ('a' ≤ c && c ≤ 'f') || ('A' ≤ c && c ≤ 'F')

def digitsIn (base : Nat) (digits : List Char) : Nat :=
  digits.foldl (fun value digit => value * base + hexDigitValue digit) 0

def referenceNames : List (List Char × List Char) :=
  (splitFields referenceNamesText.toList).map fun field =>
    (field.takeWhile (· != '='),
      ((field.dropWhile (· != '=')).drop 1 |>.splitOn '.').map fun digits =>
        Char.ofNat (digitsIn 16 digits))

/-- What the numbers of the control characters from 128 to 159 stand for; zero where a number
stands for itself. -/
def controlReplacements : List Nat :=
  [0x20AC, 0, 0x201A, 0x0192, 0x201E, 0x2026, 0x2020, 0x2021, 0x02C6, 0x2030, 0x0160, 0x2039,
    0x0152, 0, 0x017D, 0, 0, 0x2018, 0x2019, 0x201C, 0x201D, 0x2022, 0x2013, 0x2014, 0x02DC,
    0x2122, 0x0161, 0x203A, 0x0153, 0, 0x017E, 0x0178]

/-- The character that stands for one that cannot be shown. -/
def replacementChar : Char :=
  Char.ofNat 0xFFFD

def numberedChar (number : Nat) : Char :=
  if number = 0 ∨ number > 0x10FFFF ∨ (0xD800 ≤ number ∧ number < 0xE000) then replacementChar
  else if 0x80 ≤ number ∧ number < 0xA0 then
    match controlReplacements.getD (number - 0x80) 0 with
    | 0 => Char.ofNat number
    | replacement => Char.ofNat replacement
  else Char.ofNat number

def dropSemicolon : List Char → List Char
  | ';' :: rest => rest
  | chars => chars

def readNumbered? (chars : List Char) : Option (List Char × List Char) :=
  let (base, digitsOn) :=
    match chars with
    | 'x' :: rest | 'X' :: rest => (16, rest)
    | _ => (10, chars)
  let isBaseDigit : Char → Bool := if base = 16 then isHexDigit else Char.isDigit
  match digitsOn.takeWhile isBaseDigit with
  | [] => none
  | digits =>
    some ([numberedChar (digitsIn base digits)], dropSemicolon (digitsOn.dropWhile isBaseDigit))

def longestName? (chars : List Char) : Option (List Char × List Char) :=
  (referenceNames.filter fun entry => entry.1.isPrefixOf chars).foldl
    (fun best entry =>
      match best with
      | some known => if known.1.length < entry.1.length then some entry else best
      | none => some entry) none

def readNamed? (inAttribute : Bool) (chars : List Char) : Option (List Char × List Char) :=
  (longestName? chars).bind fun (name, meaning) =>
    let rest := chars.drop name.length
    let continued :=
      match rest with
      | c :: _ => c == '=' || c.isAlphanum
      | [] => false
    if inAttribute && name.getLast? != some ';' && continued then none else some (meaning, rest)

/-- The reference that follows an ampersand: its characters, and the text behind it. -/
def readReference? (inAttribute : Bool) : List Char → Option (List Char × List Char)
  | '#' :: rest => readNumbered? rest
  | c :: rest => if c.isAlphanum then readNamed? inAttribute (c :: rest) else none
  | [] => none

/-- A text with its references resolved, within a number of steps. -/
def resolveWithin (inAttribute : Bool) : Nat → List Char → List Char
  | _, [] => []
  | 0, chars => chars
  | steps + 1, c :: rest =>
    if c = '&' then
      match readReference? inAttribute rest with
      | some (meaning, behind) => meaning ++ resolveWithin inAttribute steps behind
      | none => '&' :: resolveWithin inAttribute steps rest
    else c :: resolveWithin inAttribute steps rest

def resolveReferences (inAttribute : Bool) (chars : List Char) : List Char :=
  if chars.contains '&' then resolveWithin inAttribute chars.length chars else chars

end ScriptLint.Markup
