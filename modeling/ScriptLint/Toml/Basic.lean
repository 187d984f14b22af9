/-!
# TOML values

The values of a settings file.  A table remembers how it came to be, since the keys of a table may
only be given in one place: under its own header, as the first parts of dotted keys, or between
braces.
-/

namespace ScriptLint.Toml

/-- How a table came to be. -/
inductive TableKind where
  /-- It has its own header, or is the whole file. -/
  | stated
  | implied
  | dotted
deriving DecidableEq, Repr

/-- A TOML value. -/
inductive Value where
  | text (value : String)
  | integer (value : Int)
  /-- A number with a fraction or an exponent, or none at all. -/
  | number (value : Float)
  | truth (value : Bool)
  /-- A date, a time, or both. -/
  | moment
  | list (items : List Value)
  /-- A table between braces, which is complete. -/
  | braces (entries : List (String × Value))
  | table (kind : TableKind) (entries : List (String × Value))
  | tables (items : List (List (String × Value)))

abbrev Entries := List (String × Value)

/-- Puts a value in the place of the one that a key has. -/
def Entries.replace (key : String) (value : Value) : Entries → Entries
  | [] => []
  | (first, known) :: rest =>
    if first = key then (key, value) :: rest else (first, known) :: Entries.replace key value rest

/-- Changes the table at the end of a path, making the tables on the way that are not there.  Keys
that are dotted may not go into a table that has its own header. -/
def changeAt (made : TableKind) (change : TableKind → Entries → Option Entries) :
    List String → TableKind → Entries → Option Entries
  | [], kind, entries => change kind entries
  | key :: rest, _, entries =>
    match entries.lookup key with
    | none =>
      (changeAt made change rest made []).map fun inner => entries ++ [(key, .table made inner)]
    | some (.table kind inner) =>
      if made = .dotted ∧ kind = .stated then none
      else
        (changeAt made change rest kind inner).map fun changed =>
          Entries.replace key (.table kind changed) entries
    | some (.tables items) =>
      match items.getLast? with
      | none => none
      | some last =>
        (changeAt made change rest .stated last).map fun changed =>
          Entries.replace key (.tables (items.dropLast ++ [changed])) entries
    | some _ => none

/-- Gives a key in a table its value, unless it has one.  A table that dotted keys made takes only
dotted keys. -/
def assign (key : String) (value : Value) (isDotted : Bool) (kind : TableKind)
    (entries : Entries) : Option Entries :=
  if (kind == .dotted) == isDotted ∧ (entries.lookup key).isNone then
    some (entries ++ [(key, value)])
  else none

/-- Gives a dotted key its value in a table, given its parts but the last, and the last one. -/
def assignDotted (path : List String) (key : String) (value : Value) (kind : TableKind)
    (entries : Entries) : Option Entries :=
  changeAt .dotted (assign key value (!path.isEmpty)) path kind entries

def beginTable (key : String) (_ : TableKind) (entries : Entries) : Option Entries :=
  match entries.lookup key with
  | none => some (entries ++ [(key, .table .stated [])])
  | some (.table .implied inner) => some (Entries.replace key (.table .stated inner) entries)
  | some _ => none

def beginItem (key : String) (_ : TableKind) (entries : Entries) : Option Entries :=
  match entries.lookup key with
  | none => some (entries ++ [(key, .tables [[]])])
  | some (.tables items) => some (Entries.replace key (.tables (items ++ [[]])) entries)
  | some _ => none

end ScriptLint.Toml
