import ScriptLint.Calendar.HttpDate
import ScriptLint.Json.Decoder

/-!
# Validation headers

The headers of a response by which a later response can be compared with it.  Their values are kept
as they came; only the lifetime in `cache-control` and the date are ever interpreted.
-/

namespace ScriptLint

/-- The headers of a response that tell how long its page stays valid. -/
structure ValidationHeaders where
  /-- The `etag` header. -/
  etag : Option String
  /-- The `last-modified` header. -/
  lastModified : Option String
  /-- The `cache-control` header. -/
  cacheControl : Option String
  /-- The `expires` header, which is kept but never consulted. -/
  expires : Option String
  /-- The `date` header. -/
  date : Option String
deriving DecidableEq, Repr

namespace ValidationHeaders

def none : ValidationHeaders :=
  ⟨.none, .none, .none, .none, .none⟩

def behindWord? (word : List Char) : List Char → Option (List Char)
  | [] => if word.isEmpty then some [] else .none
  | c :: rest =>
    if word.isPrefixOf (c :: rest) then some ((c :: rest).drop word.length)
    else behindWord? word rest

/-- The number that follows the first `max-age=` of a `cache-control` value, if it fits into eight
bytes. -/
def maxAgeOf? (value : String) : Option Nat := do
  let behind ← behindWord? "max-age=".toList value.toList
  let digits := behind.takeWhile Char.isDigit
  let seconds := Calendar.decimalValue digits
  if digits.isEmpty ∨ seconds ≥ Nat.pow 2 64 then .none else some seconds

/-- The lifetime that the headers give, in seconds. -/
def maxAge? (headers : ValidationHeaders) : Option Nat :=
  headers.cacheControl.bind maxAgeOf?

def isEmpty (headers : ValidationHeaders) : Bool :=
  headers.etag.isNone && headers.lastModified.isNone && headers.cacheControl.isNone &&
    headers.expires.isNone && headers.date.isNone

def fieldNames : List String :=
  ["etag", "last-modified", "cache-control", "expires", "date"]

def encode (headers : ValidationHeaders) : Json :=
  Json.ofMembers
    [("etag", Json.ofString? headers.etag), ("last-modified", Json.ofString? headers.lastModified),
      ("cache-control", Json.ofString? headers.cacheControl),
      ("expires", Json.ofString? headers.expires), ("date", Json.ofString? headers.date)]

/-- The headers that a value stands for; a missing header is absent. -/
def decode? (value : Json) : Option ValidationHeaders := do
  let field (written : Option Json) : Option (Option String) :=
    match written with
    | some inner => inner.asOptionalText?
    | .none => some .none
  match ← value.asRecord? fieldNames with
  | [etag, lastModified, cacheControl, expires, date] =>
    return ⟨← field etag, ← field lastModified, ← field cacheControl, ← field expires,
      ← field date⟩
  | _ => .none

end ValidationHeaders

end ScriptLint
