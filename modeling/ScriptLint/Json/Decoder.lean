import ScriptLint.Json.Basic

/-!
# Decoding JSON values

What a value has to look like to stand for a text, a bounded number, a choice between words, a list
or a record.  A record is written as an object, whose unknown members are passed over, or as the
list of its fields in order, where fields may be missing at the end.
-/

namespace ScriptLint.Json

def asText? : Json → Option String
  | string text => text
  | _ => none

/-- A text, or nothing for the null value. -/
def asOptionalText? : Json → Option (Option String)
  | null => some none
  | value => value.asText?.map some

def asNatBelow? (bound : Nat) : Json → Option Nat
  | natural value => if value < bound then some value else none
  | _ => none

/-- The values of a list, each decoded. -/
def asListOf? {α : Type} (decode : Json → Option α) : Json → Option (List α)
  | array items => items.mapM decode
  | _ => none

/-- The members of an object, each value decoded. -/
def asMapOf? {α : Type} (decode : Json → Option α) : Json → Option (List (String × α))
  | object members =>
    members.mapM fun (key, value) => do
      let name ← key
      let decoded ← decode value
      return (name, decoded)
  | _ => none

/-- The word of a choice: a string, or an object that gives the null value to the word. -/
def asWord? : Json → Option String
  | string text => text
  | object [(key, null)] => key
  | _ => none

/-- The values of a record with the given field names, a missing field having none.  A field may
not be given twice, and a list may not be longer than the record. -/
def asRecord? (names : List String) : Json → Option (List (Option Json))
  | array items =>
    if items.length ≤ names.length then
      some (items.map some ++ List.replicate (names.length - items.length) none)
    else none
  | object members => do
    let keyed ← asMapOf? some (object members)
    names.mapM fun name =>
      match keyed.filter fun member => member.1 == name with
      | [] => some none
      | [member] => some (some member.2)
      | _ => none
  | _ => none

end ScriptLint.Json
