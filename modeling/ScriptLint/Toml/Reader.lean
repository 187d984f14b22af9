import ScriptLint.Toml.Scalar

/-!
# Reading TOML

A file is read line by line: a header begins a table, and a line with an equals sign gives a key of
the present table its value.  Lists may go over several lines, tables between braces may not.
Brackets may be nested up to a depth of eighty.
-/

namespace ScriptLint.Toml

/-- The text without the comment that it begins with. -/
def dropComment : List Char → List Char
  | '#' :: rest => rest.dropWhile isPlain
  | chars => chars

/-- The text behind a line that has nothing more than blanks and a comment. -/
def endLine? (chars : List Char) : Option (List Char) :=
  match dropComment (chars.dropWhile isSpace) with
  | [] => some []
  | rest => dropLineEnd? rest

/-- The text behind blanks, comments and ends of lines, within a number of steps. -/
def dropGaps : Nat → List Char → List Char
  | 0, chars => chars
  | steps + 1, chars =>
    let trimmed := chars.dropWhile isSpace
    match dropLineEnd? (dropComment trimmed) with
    | some rest => dropGaps steps rest
    | none => trimmed

/-- Whether a character may stand in a key without quotes. -/
def isKeyChar (c : Char) : Bool :=
  c.isAlphanum || c == '_' || c == '-'

/-- A part of a key at the front of a text.  A quoted part may not go over several lines. -/
def readKeyPart? (chars : List Char) : Option (String × List Char) :=
  match chars with
  | [] => none
  | c :: rest =>
    if c = '"' ∨ c = '\'' then
      (readShort? c (rest.length + 1) rest).map fun (found, behind) =>
        (String.ofList found, behind)
    else
      match chars.takeWhile isKeyChar with
      | [] => none
      | bare => some (String.ofList bare, chars.drop bare.length)

/-- A key at the front of a text: its parts, between which dots stand, within a number of steps.
Blanks around the parts are passed over. -/
def readKey? : Nat → List Char → Option (List String × List Char)
  | 0, _ => none
  | steps + 1, chars => do
    let (part, afterPart) ← readKeyPart? (chars.dropWhile isSpace)
    match afterPart.dropWhile isSpace with
    | '.' :: rest =>
      let (others, behind) ← readKey? steps rest
      return (part :: others, behind)
    | rest => return ([part], rest)

def nestingLimit : Nat :=
  80

/-- A key up to its last part, and the last part. -/
def splitKey (parts : List String) : List String × String :=
  (parts.dropLast, parts.getLast?.getD "")

mutual

/-- The value at the front of a text, given how many brackets are open, within a number of
steps. -/
def readValue? : Nat → Nat → List Char → Option (Value × List Char)
  | 0, _, _ => none
  | steps + 1, depth, chars =>
    match chars with
    | '[' :: rest =>
      if nestingLimit ≤ depth + 1 then none
      else (readItems? steps (depth + 1) rest).map fun (items, behind) => (.list items, behind)
    | '\x7b' :: rest =>
      if nestingLimit ≤ depth + 1 then none
      else
        match rest.dropWhile isSpace with
        | '\x7d' :: behind => some (.braces [], behind)
        | _ =>
          (readMembers? steps (depth + 1) [] rest).map fun (entries, behind) =>
            (.braces entries, behind)
    | c :: rest =>
      if c = '"' ∨ c = '\'' then
        (readString? c rest).map fun (found, behind) => (.text found, behind)
      else
        let (word, behind) := splitWord chars
        (ofWord? word).map fun value => (value, behind)
    | [] => none

def readItems? : Nat → Nat → List Char → Option (List Value × List Char)
  | 0, _, _ => none
  | steps + 1, depth, chars =>
    match dropGaps chars.length chars with
    | ']' :: behind => some ([], behind)
    | start => do
      let (item, afterItem) ← readValue? steps depth start
      match dropGaps afterItem.length afterItem with
      | ']' :: behind => return ([item], behind)
      | ',' :: rest =>
        let (others, behind) ← readItems? steps depth rest
        return (item :: others, behind)
      | _ => none

/-- The members of a table up to its closing brace, given those before. -/
def readMembers? : Nat → Nat → Entries → List Char → Option (Entries × List Char)
  | 0, _, _, _ => none
  | steps + 1, depth, before, chars => do
    let (parts, afterKey) ← readKey? chars.length chars
    if nestingLimit ≤ parts.length then none
    else
      match afterKey with
      | '=' :: rest =>
        let (value, afterValue) ← readValue? steps depth (rest.dropWhile isSpace)
        let (path, key) := splitKey parts
        let entries ← assignDotted path key value .stated before
        match afterValue.dropWhile isSpace with
        | '\x7d' :: behind => return (entries, behind)
        | ',' :: later => readMembers? steps depth entries later
        | _ => none
      | _ => none

end

/-- A file that is being read: what has been given, and the present table. -/
structure Draft where
  entries : Entries
  path : List String

def Draft.give? (draft : Draft) (parts : List String) (value : Value) : Option Draft :=
  let (path, key) := splitKey parts
  (changeAt .implied (assignDotted path key value) draft.path .stated draft.entries).map
    fun entries => { draft with entries }

/-- The draft with a table begun by a change of the table that the header's key leads to. -/
def Draft.begin? (draft : Draft) (parts : List String)
    (change : String → TableKind → Entries → Option Entries) : Option Draft :=
  let (path, key) := splitKey parts
  (changeAt .implied (change key) path .stated draft.entries).map fun entries => ⟨entries, parts⟩

def readHeader? (closing : List Char) (chars : List Char) : Option (List String × List Char) := do
  let (parts, rest) ← readKey? chars.length chars
  if closing.isPrefixOf rest ∧ parts.length < nestingLimit then
    return (parts, ← endLine? (rest.drop closing.length))
  else none

def readLine? (draft : Draft) (chars : List Char) : Option (Draft × List Char) :=
  match chars with
  | '[' :: '[' :: rest => do
    let (parts, behind) ← readHeader? [']', ']'] rest
    return (← draft.begin? parts beginItem, behind)
  | '[' :: rest => do
    let (parts, behind) ← readHeader? [']'] rest
    return (← draft.begin? parts beginTable, behind)
  | _ => do
    let (parts, afterKey) ← readKey? chars.length chars
    match afterKey with
    | '=' :: rest =>
      if nestingLimit ≤ parts.length then none
      else
        let (value, afterValue) ← readValue? (2 * rest.length + 2) 0 (rest.dropWhile isSpace)
        return (← draft.give? parts value, ← endLine? afterValue)
    | _ => none

/-- The draft of all lines of a text, within a number of steps. -/
def readLines? : Nat → Draft → List Char → Option Draft
  | 0, _, _ => none
  | steps + 1, draft, chars =>
    match chars.dropWhile isSpace with
    | [] => some draft
    | '#' :: rest => (endLine? ('#' :: rest)).bind (readLines? steps draft)
    | trimmed =>
      match dropLineEnd? trimmed with
      | some rest => readLines? steps draft rest
      | none => do
        let (next, rest) ← readLine? draft trimmed
        readLines? steps next rest

def parse? (text : String) : Option Entries :=
  let chars :=
    match text.toList with
    | c :: rest => if c.toNat = 0xFEFF then rest else c :: rest
    | [] => []
  (readLines? (chars.length + 1) ⟨[], []⟩ chars).map Draft.entries

end ScriptLint.Toml
