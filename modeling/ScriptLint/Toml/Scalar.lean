import ScriptLint.Calendar.Date
import ScriptLint.Toml.Basic

/-!
# Words and strings of TOML

Numbers, dates and truth values are words: whatever characters can stand in one of them.  Strings
stand in quotes of two kinds, of which one takes everything as it is, on one line or between three
quotes on several.
-/

namespace ScriptLint.Toml

def isSpace (c : Char) : Bool :=
  c == ' ' || c == '\t'

def isPlain (c : Char) : Bool :=
  c == '\t' || (32 ≤ c.toNat && c.toNat != 127)

/-- Whether a character may stand in a number, a date or a truth value. -/
def isWordChar (c : Char) : Bool :=
  c.isAlphanum || c == '_' || c == '+' || c == '-' || c == '.' || c == ':'

def digitValue? (base : Nat) (c : Char) : Option Nat :=
  let value :=
    if c.isDigit then c.toNat - 48
    else if c.isAlpha then c.toLower.toNat - 87
    else base
  if value < base then some value else none

def digitsOf? (base : Nat) (row : List Char) : Option (List Nat) :=
  let groups := row.splitOn '_'
  if groups.any List.isEmpty then none else groups.flatten.mapM (digitValue? base)

def valueOf (base : Nat) (digits : List Nat) : Nat :=
  digits.foldl (fun value digit => value * base + digit) 0

/-- The sign of a word, and the word without it. -/
def splitSign : List Char → Bool × List Char
  | '+' :: rest => (false, rest)
  | '-' :: rest => (true, rest)
  | word => (false, word)

/-- The digits of a row that does not begin with a superfluous zero. -/
def wholeDigits? (row : List Char) : Option (List Nat) :=
  match row with
  | '0' :: _ :: _ => none
  | _ => digitsOf? 10 row

/-- The integer that a word stands for, if it takes up to eight bytes with its sign. -/
def integer? (word : List Char) : Option Int := do
  let value : Int ←
    match word with
    | '0' :: 'x' :: row => (digitsOf? 16 row).map fun digits => (valueOf 16 digits : Int)
    | '0' :: 'o' :: row => (digitsOf? 8 row).map fun digits => (valueOf 8 digits : Int)
    | '0' :: 'b' :: row => (digitsOf? 2 row).map fun digits => (valueOf 2 digits : Int)
    | _ =>
      let (negative, row) := splitSign word
      (wholeDigits? row).map fun digits =>
        if negative then -(valueOf 10 digits : Int) else valueOf 10 digits
  if -Int.pow 2 63 ≤ value ∧ value < Int.pow 2 63 then return value else none

def scaled (multiple : Nat) (power : Int) : Float :=
  let size : Int := (Nat.toDigits 10 multiple).length + power
  if multiple = 0 ∨ size < -400 then 0
  else if 400 < size then 1 / 0
  else Float.ofScientific multiple (power < 0) power.natAbs

def exponent? (row : List Char) : Option Int :=
  let (negative, digits) := splitSign row
  (digitsOf? 10 digits).map fun found =>
    if negative then -(valueOf 10 found : Int) else valueOf 10 found

/-- The number with a fraction or an exponent that a word stands for, unless it is too great. -/
def fraction? (word : List Char) : Option Float := do
  let (negative, row) := splitSign word
  let isMark (c : Char) : Bool := c == 'e' || c == 'E'
  let plain := row.takeWhile fun c => !isMark c
  let whole ← wholeDigits? (plain.takeWhile (· != '.'))
  let decimals ←
    match plain.dropWhile (· != '.') with
    | [] => some []
    | _ :: decimals => digitsOf? 10 decimals
  let power ←
    match row.dropWhile fun c => !isMark c with
    | [] => some 0
    | _ :: exponent => exponent? exponent
  if plain.length = row.length ∧ !plain.contains '.' then none
  else
    let value := scaled (valueOf 10 (whole ++ decimals)) (power - decimals.length)
    if negative then return -value else if value.isInf then none else return value

/-- The number that is not finite that a word stands for. -/
def unusual? (word : List Char) : Option Float :=
  let (negative, name) := splitSign word
  if name = "inf".toList then some (if negative then -(1 / 0) else 1 / 0)
  else if name = "nan".toList then some (0 / 0)
  else none

/-- A number of exactly so many digits, within bounds. -/
def fixed? (digits least most : Nat) (row : List Char) : Option Nat := do
  let value := valueOf 10 (← row.mapM (digitValue? 10))
  if row.length = digits ∧ least ≤ value ∧ value ≤ most then return value else none

def isDate (word : List Char) : Bool :=
  match word.splitOn '-' with
  | [year, month, day] =>
    match fixed? 4 0 9999 year, fixed? 2 1 12 month, fixed? 2 1 31 day with
    | some y, some m, some d => (Calendar.Date.ofParts? y m d).isSome
    | _, _, _ => false
  | _ => false

def isTime (word : List Char) : Bool :=
  match word.splitOn ':' with
  | [hour, minute, rest] =>
    let second := rest.takeWhile (· != '.')
    let decimals := (rest.dropWhile (· != '.')).drop 1
    (fixed? 2 0 23 hour).isSome && (fixed? 2 0 59 minute).isSome &&
      (fixed? 2 0 60 second).isSome &&
      (second.length == rest.length || (!decimals.isEmpty && decimals.all Char.isDigit))
  | _ => false

/-- Whether a word is an offset from universal time, of hours and minutes. -/
def isOffset (word : List Char) : Bool :=
  match word.splitOn ':' with
  | [hour, minute] => (fixed? 2 0 23 hour).isSome && (fixed? 2 0 59 minute).isSome
  | _ => false

def isZonedTime (word : List Char) : Bool :=
  let time := word.takeWhile fun c => c.isDigit || c == ':' || c == '.'
  isTime time &&
    match word.drop time.length with
    | [] => true
    | mark :: offset =>
      if mark = 'Z' ∨ mark = 'z' then offset.isEmpty
      else (mark == '+' || mark == '-') && isOffset offset

/-- Whether a word is a date, a time of day, or a date with a time of day behind a mark. -/
def isMoment (word : List Char) : Bool :=
  isTime word || isDate word ||
    isDate (word.take 10) &&
      match word.drop 10 with
      | mark :: time => (mark == 'T' || mark == 't' || mark == ' ') && isZonedTime time
      | [] => false

def ofWord? (word : List Char) : Option Value :=
  if word = "true".toList then some (.truth true)
  else if word = "false".toList then some (.truth false)
  else if isMoment word then some .moment
  else
    match (unusual? word).or (fraction? word) with
    | some value => some (.number value)
    | none => (integer? word).map .integer

/-- The word at the front of a text.  A blank between a date and a time belongs to it. -/
def splitWord (chars : List Char) : List Char × List Char :=
  let word := chars.takeWhile isWordChar
  let rest := chars.drop word.length
  match rest with
  | ' ' :: a :: b :: ':' :: _ =>
    if isDate word ∧ a.isDigit ∧ b.isDigit then
      let time := (rest.drop 1).takeWhile isWordChar
      (word ++ ' ' :: time, rest.drop (time.length + 1))
    else (word, rest)
  | _ => (word, rest)

def scalar? (digits : List Char) : Option Char := do
  let value := valueOf 16 (← digits.mapM (digitValue? 16))
  if value < 0xD800 ∨ (0xE000 ≤ value ∧ value < 0x110000) then return Char.ofNat value else none

def escaped? (c : Char) : Option Char :=
  if c = '"' ∨ c = '\\' then some c
  else if c = 'b' then some (Char.ofNat 8)
  else if c = 't' then some '\t'
  else if c = 'n' then some '\n'
  else if c = 'f' then some (Char.ofNat 12)
  else if c = 'r' then some '\r'
  else none

/-- The escaped character behind a backslash, and the text behind it. -/
def readEscape? : List Char → Option (Char × List Char)
  | 'u' :: a :: b :: c :: d :: rest => (scalar? [a, b, c, d]).map fun found => (found, rest)
  | 'U' :: a :: b :: c :: d :: e :: f :: g :: h :: rest =>
    (scalar? [a, b, c, d, e, f, g, h]).map fun found => (found, rest)
  | c :: rest => (escaped? c).map fun found => (found, rest)
  | [] => none

/-- The string of one line up to its closing quote, within a number of steps. -/
def readShort? (quote : Char) : Nat → List Char → Option (List Char × List Char)
  | 0, _ => none
  | _, [] => none
  | steps + 1, c :: rest =>
    if c = quote then some ([], rest)
    else if c = '\\' ∧ quote = '"' then do
      let (found, behind) ← readEscape? rest
      let (others, later) ← readShort? quote steps behind
      return (found :: others, later)
    else if isPlain c then do
      let (others, later) ← readShort? quote steps rest
      return (c :: others, later)
    else none

/-- The text behind the end of a line, if it begins with one. -/
def dropLineEnd? : List Char → Option (List Char)
  | '\n' :: rest => some rest
  | '\r' :: '\n' :: rest => some rest
  | _ => none

def dropBlankLines : List Char → List Char
  | '\r' :: '\n' :: rest => dropBlankLines rest
  | c :: rest => if isSpace c ∨ c = '\n' then dropBlankLines rest else c :: rest
  | [] => []

/-- The text behind the end of a line that a backslash takes away with the blanks after it. -/
def dropFolded? (chars : List Char) : Option (List Char) :=
  (dropLineEnd? (chars.dropWhile isSpace)).map dropBlankLines

/-- The string of several lines up to its three closing quotes, before which one or two more may
stand, within a number of steps. -/
def readLong? (quote : Char) : Nat → List Char → Option (List Char × List Char)
  | 0, _ => none
  | _, [] => none
  | steps + 1, c :: rest =>
    let goOn (found : List Char) (behind : List Char) : Option (List Char × List Char) :=
      (readLong? quote steps behind).map fun (others, later) => (found ++ others, later)
    if c = quote then
      match (rest.takeWhile (· == quote)).length with
      | 0 => goOn [c] rest
      | 1 => goOn [c, c] (rest.drop 1)
      | 2 => some ([], rest.drop 2)
      | 3 => some ([c], rest.drop 3)
      | _ => some ([c, c], rest.drop 4)
    else if c = '\\' ∧ quote = '"' then
      match dropFolded? rest with
      | some behind => goOn [] behind
      | none =>
        match readEscape? rest with
        | some (found, behind) => goOn [found] behind
        | none => none
    else
      match dropLineEnd? (c :: rest) with
      | some behind => goOn ['\n'] behind
      | none => if isPlain c then goOn [c] rest else none

def readString? (quote : Char) (chars : List Char) : Option (String × List Char) :=
  let read :=
    if [quote, quote].isPrefixOf chars then
      let inner := chars.drop 2
      readLong? quote (inner.length + 1) ((dropLineEnd? inner).getD inner)
    else readShort? quote (chars.length + 1) chars
  read.map fun (found, rest) => (String.ofList found, rest)

end ScriptLint.Toml
