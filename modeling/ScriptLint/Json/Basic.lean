/-!
# JSON values

The values that cache files and reports are made of.  Reading keeps what a decoder has to tell
apart: a plain natural number from any other number, and a string from one whose escapes stand for
no character.  Members of an object keep their order and their repetitions.
-/

namespace ScriptLint

/-- A string of a JSON text; nothing when an escape stands for half of a surrogate pair. -/
abbrev JsonText := Option String

/-- A JSON value. -/
inductive Json where
  /-- The value without content. -/
  | null
  | bool (value : Bool)
  /-- A number written as a natural number, without sign, fraction and exponent. -/
  | natural (value : Nat)
  | otherNumber
  | string (text : JsonText)
  | array (items : List Json)
  | object (members : List (JsonText × Json))

namespace Json

def ofString (text : String) : Json :=
  string (some text)

def ofMembers (members : List (String × Json)) : Json :=
  object (members.map fun member => (some member.1, member.2))

/-- A string, or the null value for nothing. -/
def ofString? : Option String → Json
  | some text => ofString text
  | none => null

def ofStrings (texts : List String) : Json :=
  array (texts.map ofString)

end Json

end ScriptLint
