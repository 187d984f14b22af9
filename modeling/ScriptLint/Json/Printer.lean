import ScriptLint.Json.Basic

/-!
# Writing JSON

A value is written either compactly, without any blank, or laid out: each item and each member on
a line of its own, two spaces deeper than the bracket that holds it.  Empty brackets are closed at
once.  In strings only quotes, backslashes and control characters are escaped.
-/

namespace ScriptLint.Json

/-- The digit of a number below sixteen, with small letters. -/
def hexDigit (n : Nat) : Char :=
  if n < 10 then Char.ofNat (48 + n) else Char.ofNat (87 + n)

def escapeChar (c : Char) : List Char :=
  if c = '"' then ['\\', '"']
  else if c = '\\' then ['\\', '\\']
  else if c.toNat = 8 then ['\\', 'b']
  else if c.toNat = 9 then ['\\', 't']
  else if c.toNat = 10 then ['\\', 'n']
  else if c.toNat = 12 then ['\\', 'f']
  else if c.toNat = 13 then ['\\', 'r']
  else if c.toNat < 32 then
    ['\\', 'u', '0', '0', hexDigit (c.toNat / 16), hexDigit (c.toNat % 16)]
  else [c]

def quote (text : List Char) : List Char :=
  '"' :: text.flatMap escapeChar ++ ['"']

/-- The layout of a written value. -/
inductive Layout where
  | compact
  /-- One item a line, inside brackets that stand at the given depth. -/
  | lines (depth : Nat)

namespace Layout

def deeper : Layout → Layout
  | compact => compact
  | lines depth => lines (depth + 1)

def lineBreak : Layout → List Char
  | compact => []
  | lines depth => '\n' :: List.replicate (2 * depth) ' '

def colon : Layout → List Char
  | compact => [':']
  | lines _ => [':', ' ']

end Layout

/-- Items between brackets, each after a line break and with commas between them. -/
def bracket (layout : Layout) (opening closing : Char) (items : List (List Char)) : List Char :=
  match items with
  | [] => [opening, closing]
  | first :: rest =>
    opening :: layout.deeper.lineBreak ++ first ++
      rest.flatMap (fun item => ',' :: layout.deeper.lineBreak ++ item) ++
      layout.lineBreak ++ [closing]

mutual

/-- The text of a value.  A number that is not a natural number is never written by this library;
it is shown as a negative zero. -/
def write (layout : Layout) : Json → List Char
  | null => "null".toList
  | bool true => "true".toList
  | bool false => "false".toList
  | natural value => (toString value).toList
  | otherNumber => "-0".toList
  | string text => quote ((text.getD "").toList)
  | array items => bracket layout '[' ']' (writeItems layout.deeper items)
  | object members => bracket layout '\x7b' '\x7d' (writeMembers layout.deeper members)

def writeItems (layout : Layout) : List Json → List (List Char)
  | [] => []
  | item :: rest => write layout item :: writeItems layout rest

def writeMembers (layout : Layout) : List (JsonText × Json) → List (List Char)
  | [] => []
  | (key, value) :: rest =>
    (quote ((key.getD "").toList) ++ layout.colon ++ write layout value) ::
      writeMembers layout rest

end

/-- A value on one line. -/
def compress (value : Json) : String :=
  String.ofList (value.write .compact)

def pretty (value : Json) : String :=
  String.ofList (value.write (.lines 0))

end ScriptLint.Json
