import ScriptLint.Json.Basic

/-!
# Reading JSON

A text is read as one value with nothing but blanks around it.  Numbers may not begin with a
superfluous zero, control characters may not stand in strings, and brackets may be nested to any
depth.  The readers of values take a bound on their steps, which the length of the text provides.
-/

namespace ScriptLint.Json

def isGap (c : Char) : Bool :=
  c == ' ' || c == '\n' || c == '\t' || c == '\r'

/-- A text without the gaps at its front. -/
def skipGaps (chars : List Char) : List Char :=
  chars.dropWhile isGap

def hexValue? (c : Char) : Option Nat :=
  if '0' ≤ c ∧ c ≤ '9' then some (c.toNat - 48)
  else if 'a' ≤ c ∧ c ≤ 'f' then some (c.toNat - 87)
  else if 'A' ≤ c ∧ c ≤ 'F' then some (c.toNat - 55)
  else none

def hexQuad? (a b c d : Char) : Option Nat := do
  let first ← hexValue? a
  let second ← hexValue? b
  let third ← hexValue? c
  let fourth ← hexValue? d
  return ((first * 16 + second) * 16 + third) * 16 + fourth

/-- A part of a string: a character, or a unit of two bytes given by its number. -/
inductive Piece where
  | char (c : Char)
  | unit (value : Nat)

/-- The pieces of a string up to its closing quote, and the text behind the quote. -/
def readPieces : List Char → Option (List Piece × List Char)
  | [] => none
  | '"' :: rest => some ([], rest)
  | '\\' :: 'u' :: a :: b :: c :: d :: rest => do
    let value ← hexQuad? a b c d
    let (pieces, behind) ← readPieces rest
    return (.unit value :: pieces, behind)
  | '\\' :: escaped :: rest => do
    let c ←
      if escaped = '"' ∨ escaped = '\\' ∨ escaped = '/' then some escaped
      else if escaped = 'b' then some (Char.ofNat 8)
      else if escaped = 'f' then some (Char.ofNat 12)
      else if escaped = 'n' then some '\n'
      else if escaped = 'r' then some '\r'
      else if escaped = 't' then some '\t'
      else none
    let (pieces, behind) ← readPieces rest
    return (.char c :: pieces, behind)
  | c :: rest =>
    if c = '\\' ∨ c.toNat < 32 then none
    else do
      let (pieces, behind) ← readPieces rest
      return (.char c :: pieces, behind)

/-- The characters of a list of pieces: two units that make up a surrogate pair are one character,
and half of a pair is none. -/
def joinPieces : List Piece → Option (List Char)
  | [] => some []
  | .char c :: rest => (joinPieces rest).map (c :: ·)
  | .unit high :: .unit low :: rest =>
    if 0xD800 ≤ high ∧ high < 0xDC00 then
      if 0xDC00 ≤ low ∧ low < 0xE000 then
        (joinPieces rest).map
          (Char.ofNat (0x10000 + (high - 0xD800) * 0x400 + (low - 0xDC00)) :: ·)
      else none
    else if 0xDC00 ≤ high ∧ high < 0xE000 then none
    else (joinPieces (.unit low :: rest)).map (Char.ofNat high :: ·)
  | .unit value :: rest =>
    if 0xD800 ≤ value ∧ value < 0xE000 then none
    else (joinPieces rest).map (Char.ofNat value :: ·)

def readText (chars : List Char) : Option (JsonText × List Char) :=
  (readPieces chars).map fun (pieces, behind) =>
    ((joinPieces pieces).map String.ofList, behind)

/-- The digits at the front of a text, of which there has to be one. -/
def readDigits? (chars : List Char) : Option (List Char × List Char) :=
  match chars.takeWhile Char.isDigit with
  | [] => none
  | digits => some (digits, chars.dropWhile Char.isDigit)

def digitsValue (digits : List Char) : Nat :=
  digits.foldl (fun value digit => value * 10 + (digit.toNat - 48)) 0

/-- The fraction that may follow the digits of a number: whether there is one, and the text
behind it. -/
def readFraction : List Char → Option (Bool × List Char)
  | '.' :: rest => (readDigits? rest).map fun (_, behind) => (true, behind)
  | chars => some (false, chars)

/-- The exponent that may end a number: whether there is one, and the text behind it. -/
def readExponent : List Char → Option (Bool × List Char)
  | c :: rest =>
    if c = 'e' ∨ c = 'E' then
      let unsigned :=
        match rest with
        | sign :: later => if sign = '+' ∨ sign = '-' then later else rest
        | [] => rest
      (readDigits? unsigned).map fun (_, behind) => (true, behind)
    else some (false, c :: rest)
  | [] => some (false, [])

def readNumber (chars : List Char) : Option (Json × List Char) := do
  let negative := chars.head? == some '-'
  let (digits, afterDigits) ← readDigits? (if negative then chars.tail else chars)
  if digits.length > 1 ∧ digits.head? = some '0' then none
  else
    let (fraction, afterFraction) ← readFraction afterDigits
    let (exponent, rest) ← readExponent afterFraction
    return (if negative || fraction || exponent then otherNumber
      else natural (digitsValue digits), rest)

def dropWord? (word : List Char) (chars : List Char) : Option (List Char) :=
  if word.isPrefixOf chars then some (chars.drop word.length) else none

mutual

/-- The value at the front of a text, and the text behind it, within a number of steps. -/
def readValue : Nat → List Char → Option (Json × List Char)
  | 0, _ => none
  | steps + 1, chars =>
    match skipGaps chars with
    | [] => none
    | '"' :: rest => (readText rest).map fun (text, behind) => (string text, behind)
    | '[' :: rest =>
      match skipGaps rest with
      | ']' :: behind => some (array [], behind)
      | _ => (readItems steps rest).map fun (items, behind) => (array items, behind)
    | '\x7b' :: rest =>
      match skipGaps rest with
      | '\x7d' :: behind => some (object [], behind)
      | _ => (readMembers steps rest).map fun (members, behind) => (object members, behind)
    | 'n' :: rest => (dropWord? "ull".toList rest).map fun behind => (null, behind)
    | 't' :: rest => (dropWord? "rue".toList rest).map fun behind => (bool true, behind)
    | 'f' :: rest => (dropWord? "alse".toList rest).map fun behind => (bool false, behind)
    | other => readNumber other

def readItems : Nat → List Char → Option (List Json × List Char)
  | 0, _ => none
  | steps + 1, chars => do
    let (item, afterItem) ← readValue steps chars
    match skipGaps afterItem with
    | ']' :: behind => return ([item], behind)
    | ',' :: rest =>
      let (items, behind) ← readItems steps rest
      return (item :: items, behind)
    | _ => none

def readMembers : Nat → List Char → Option (List (JsonText × Json) × List Char)
  | 0, _ => none
  | steps + 1, chars => do
    match skipGaps chars with
    | '"' :: rest =>
      let (key, afterKey) ← readText rest
      match skipGaps afterKey with
      | ':' :: afterColon =>
        let (value, afterValue) ← readValue steps afterColon
        match skipGaps afterValue with
        | '\x7d' :: behind => return ([(key, value)], behind)
        | ',' :: later =>
          let (members, behind) ← readMembers steps later
          return ((key, value) :: members, behind)
        | _ => none
      | _ => none
    | _ => none

end

def parse? (text : String) : Option Json := do
  let chars := text.toList
  let (value, rest) ← readValue (chars.length + 1) chars
  if (skipGaps rest).isEmpty then return value else none

end ScriptLint.Json
