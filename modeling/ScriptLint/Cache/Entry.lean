import ScriptLint.Cache.Headers
import ScriptLint.Json.Parser
import ScriptLint.Json.Printer
import ScriptLint.MethodTable

/-!
# Cache entries

What is remembered of one documentation page: its method table, the headers it came with, and when
it was fetched.  The class is known from the name of the file and is not written into it.  Files may
lack everything but need not: each missing field has an empty value.
-/

namespace ScriptLint

namespace AritySet

def encode (arities : AritySet) : Json :=
  .array (arities.toList.map .natural)

def decode? (value : Json) : Option AritySet :=
  (value.asListOf? (Json.asNatBelow? (Nat.pow 2 64))).map ofList

end AritySet

namespace MethodTable

def encode (table : MethodTable) : Json :=
  Json.ofMembers (table.entries.map fun entry => (entry.1, entry.2.encode))

/-- A table in which a name has exactly the given counts. -/
def assign (table : MethodTable) (name : String) (arities : AritySet) : MethodTable :=
  let others : List (String × AritySet) := table.entries.filter fun entry => entry.1 != name
  (MethodTable.mk others (table.ascending.sublist (List.Sublist.map _ List.filter_sublist))).adjoin
    name arities

/-- The table that an object stands for; of repeated names the last one counts. -/
def decode? (value : Json) : Option MethodTable := do
  let members ← value.asMapOf? AritySet.decode?
  return members.foldl (fun table member => table.assign member.1 member.2) empty

end MethodTable

/-- What is remembered of the documentation of one class. -/
structure CacheEntry where
  className : String
  methods : MethodTable
  /-- The headers of the page, if they were kept. -/
  headers : Option ValidationHeaders
  /-- When the page was fetched, if that was kept. -/
  cachedAt : Option Calendar.Instant
deriving DecidableEq

namespace CacheEntry

/-- Whether the entry documents at least one method. -/
def isUsable (entry : CacheEntry) : Bool :=
  !entry.methods.isEmpty

def fieldNames : List String :=
  ["methods", "headers", "cached_at"]

/-- An entry is written as a record without its class. -/
def encode (entry : CacheEntry) : Json :=
  Json.ofMembers
    [("methods", entry.methods.encode),
      ("headers",
        match entry.headers with
        | some headers => headers.encode
        | none => .null),
      ("cached_at", Json.ofString? (entry.cachedAt.map Calendar.Instant.zuluText))]

def decodeInstant? : Json → Option (Option Calendar.Instant)
  | .null => some none
  | value =>
    value.asText?.bind fun text => (Calendar.readLooseTimestamp? text.toList).map some

def decode? (className : String) (value : Json) : Option CacheEntry := do
  match ← value.asRecord? fieldNames with
  | [methods, headers, cachedAt] =>
    let table ←
      match methods with
      | some inner => MethodTable.decode? inner
      | none => some MethodTable.empty
    let kept ←
      match headers with
      | some .null | none => some none
      | some inner => (ValidationHeaders.decode? inner).map some
    let instant ←
      match cachedAt with
      | some inner => decodeInstant? inner
      | none => some none
    return ⟨className, table, kept, instant⟩
  | _ => none

def fileText (entry : CacheEntry) : String :=
  entry.encode.pretty

def ofFileText? (className text : String) : Option CacheEntry :=
  (Json.parse? text).bind (decode? className)

end CacheEntry

end ScriptLint
