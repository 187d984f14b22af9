import ScriptLint.Text.Utf8

/-!
# Web addresses

The addresses of pages on the web: a scheme, a host, perhaps a number after it, the segments of a
path, and perhaps a query and a fragment.  An address is read from a text with some tolerance and
written in one way only, in which characters that may not stand there are written byte by byte.
-/

namespace ScriptLint

/-- A web address. -/
structure WebAddress where
  /-- Whether the scheme is the secure one. -/
  isSecure : Bool
  host : String
  /-- The number after the host, unless it is the one that goes with the scheme. -/
  hostNumber : Option Nat
  segments : List String
  query : Option String
  fragment : Option String
deriving DecidableEq, Repr

namespace WebAddress

def authority (address : WebAddress) : String :=
  address.host ++
    match address.hostNumber with
    | some number => ":" ++ toString number
    | none => ""

/-- The path and the query, for which the host is asked. -/
def target (address : WebAddress) : String :=
  "/" ++ "/".intercalate address.segments ++
    match address.query with
    | some query => "?" ++ query
    | none => ""

def text (address : WebAddress) : String :=
  (if address.isSecure then "https://" else "http://") ++ address.authority ++ address.target ++
    match address.fragment with
    | some fragment => "#" ++ fragment
    | none => ""

/-- The digit of a number below sixteen, with capital letters. -/
def hexDigit (n : Nat) : Char :=
  if n < 10 then Char.ofNat (48 + n) else Char.ofNat (55 + n)

/-- A text in which characters outside the visible ones of ASCII, and the given ones, are written
byte by byte. -/
def escape (special : List Char) (chars : List Char) : String :=
  String.ofList <| chars.flatMap fun c =>
    if 0x20 < c.toNat ∧ c.toNat < 0x7F ∧ !special.contains c then [c]
    else
      (String.utf8EncodeChar c).flatMap fun byte =>
        ['%', hexDigit (byte.toNat / 16), hexDigit (byte.toNat % 16)]

def fragmentSpecials : List Char :=
  ['"', '<', '>', '\x60']

def querySpecials : List Char :=
  ['"', '#', '<', '>', '\x27']

def pathSpecials : List Char :=
  ['"', '#', '<', '>', '?', '\x60', '\x7b', '\x7d']

def hexValue? (c : Char) : Option Nat :=
  if c.isDigit then some (c.toNat - 48)
  else if 'a' ≤ c ∧ c ≤ 'f' then some (c.toNat - 87)
  else if 'A' ≤ c ∧ c ≤ 'F' then some (c.toNat - 55)
  else none

def unescape : List Char → List UInt8
  | '%' :: high :: low :: rest =>
    match hexValue? high, hexValue? low with
    | some upper, some lower => UInt8.ofNat (upper * 16 + lower) :: unescape rest
    | _, _ => 37 :: unescape (high :: low :: rest)
  | c :: rest => String.utf8EncodeChar c ++ unescape rest
  | [] => []

def digitsValue? (base : Nat) (digits : List Char) : Option Nat :=
  digits.foldlM (fun value c =>
    (hexValue? c).bind fun digit => if digit < base then some (value * base + digit) else none) 0

/-- A part of a numeric host, in base sixteen or eight if it begins like that. -/
def numericPart? (part : List Char) : Option Nat :=
  match part with
  | [] => none
  | '0' :: 'x' :: rest => digitsValue? 16 rest
  | '0' :: 'X' :: rest => digitsValue? 16 rest
  | '0' :: first :: rest => digitsValue? 8 (first :: rest)
  | _ => digitsValue? 10 part

def numericText (value : Nat) : String :=
  ".".intercalate ([value / 16777216, value / 65536 % 256, value / 256 % 256, value % 256].map
    fun byte => toString byte)

/-- A numeric host, in which the last part may stand for several bytes. -/
def numericHost? (parts : List (List Char)) : Option String := do
  let numbers ← parts.mapM numericPart?
  let last ← numbers.getLast?
  let others := numbers.dropLast
  if 3 < others.length ∨ others.any (255 < ·) ∨ Nat.pow 256 (4 - others.length) ≤ last then
    none
  else
    let places := others.zipIdx.map fun (number, index) => number * Nat.pow 256 (3 - index)
    let front := places.foldl (· + ·) 0
    return numericText (front + last)

def hostForbids (c : Char) : Bool :=
  c.toNat ≤ 0x20 || 0x7F ≤ c.toNat || "#/:<>?@[\\]^|%".toList.contains c

def hostOf? (chars : List Char) : Option String :=
  match chars with
  | '[' :: rest =>
    let inner := rest.dropLast
    if rest.getLast? = some ']' ∧ inner.contains ':' ∧
        inner.all fun c => (hexValue? c).isSome || c == ':' || c == '.' then
      some (String.ofList (chars.map Char.toLower))
    else none
  | _ =>
    let host := (Text.decode (unescape chars)).toList.map Char.toLower
    if host.isEmpty ∨ host.any hostForbids then none
    else
      let parts := host.splitOn '.'
      let labels := if parts.getLast? = some [] then parts.dropLast else parts
      let last := labels.getLastD []
      if !last.isEmpty && (last.all Char.isDigit || (numericPart? last).isSome) then
        numericHost? labels
      else some (String.ofList host)

/-- The number after a host, which is none if it goes with the scheme. -/
def hostNumberOf? (isSecure : Bool) (digits : List Char) : Option (Option Nat) :=
  if digits.isEmpty then some none
  else
    match digitsValue? 10 digits with
    | some number =>
      if 65535 < number then none
      else if number = (if isSecure then 443 else 80) then some none
      else some (some number)
    | none => none

def isSlash (c : Char) : Bool :=
  c == '/' || c == '\\'

def plainDots : List Char → List Char
  | '%' :: '2' :: 'e' :: rest => '.' :: plainDots rest
  | '%' :: '2' :: 'E' :: rest => '.' :: plainDots rest
  | c :: rest => c :: plainDots rest
  | [] => []

/-- Segments after others, in which one dot stays where it is and two dots go back. -/
def appendSegments (segments : List String) : List (List Char) → List String
  | [] => segments
  | segment :: rest =>
    let ending := if rest.isEmpty then [""] else []
    match plainDots segment with
    | ['.'] => appendSegments (segments ++ ending) rest
    | ['.', '.'] => appendSegments (segments.dropLast ++ ending) rest
    | _ => appendSegments (segments ++ [escape pathSpecials segment]) rest

/-- A text up to a character that ends it, and what follows that. -/
def cut (mark : Char) (chars : List Char) : List Char × Option (List Char) :=
  match chars.dropWhile (· != mark) with
  | [] => (chars, none)
  | _ :: rest => (chars.takeWhile (· != mark), some rest)

/-- An address with the path, query and fragment of a text, where the path begins after some
segments. -/
def withTarget (address : WebAddress) (segments : List String) (chars : List Char) : WebAddress :=
  let (beforeFragment, fragment) := cut '#' chars
  let (path, query) := cut '?' beforeFragment
  { address with
    segments := appendSegments segments (path.splitOnP isSlash)
    query := query.map (escape querySpecials)
    fragment := fragment.map (escape fragmentSpecials) }

/-- A text without what may not surround or interrupt an address. -/
def tidy (chars : List Char) : List Char :=
  let isOuter (c : Char) : Bool := c.toNat ≤ 0x20
  let inner := ((chars.dropWhile isOuter).reverse.dropWhile isOuter).reverse
  inner.filter fun c => c != '\t' && c != '\n' && c != '\r'

/-- The scheme of a text, in small letters, and what follows it. -/
def scheme? (chars : List Char) : Option (String × List Char) :=
  match cut ':' chars with
  | (name, some rest) =>
    let isLetter := (name.head?.map Char.isAlpha).getD false
    if isLetter && name.all fun c => c.isAlphanum || c == '+' || c == '-' || c == '.' then
      some (String.ofList (name.map Char.toLower), rest)
    else none
  | _ => none

/-- The address that begins with a host.  What stands before the last at sign is for the host alone
and no part of the address. -/
def ofHost? (isSecure : Bool) (chars : List Char) : Option WebAddress := do
  let isEnd (c : Char) : Bool := isSlash c || c == '?' || c == '#'
  let (front, target) := (chars.takeWhile (!isEnd ·), chars.dropWhile (!isEnd ·))
  let place := (front.splitOn '@').getLastD []
  let closing := (place.reverse.takeWhile (· != ']')).reverse
  let hasNumber := closing.contains ':'
  let number := if hasNumber then (closing.reverse.takeWhile (· != ':')).reverse else []
  let host := if hasNumber then place.take (place.length - number.length - 1) else place
  let address : WebAddress :=
    ⟨isSecure, ← hostOf? host, ← hostNumberOf? isSecure number, [], none, none⟩
  let path := if (target.head?.map isSlash).getD false then target.drop 1 else target
  return withTarget address [] path

def ofScheme? (scheme : String) (rest : List Char) : Option WebAddress :=
  if scheme = "http" then ofHost? false (rest.dropWhile isSlash)
  else if scheme = "https" then ofHost? true (rest.dropWhile isSlash)
  else none

def ofText? (text : String) : Option WebAddress :=
  (scheme? (tidy text.toList)).bind fun (scheme, rest) => ofScheme? scheme rest

/-- The address that a text gives at another address, of which it may leave out the beginning. -/
def resolve? (address : WebAddress) (text : String) : Option WebAddress :=
  let chars := tidy text.toList
  match scheme? chars with
  | some (scheme, rest) => ofScheme? scheme rest
  | none =>
    match chars with
    | [] => some { address with fragment := none }
    | first :: rest =>
      if first = '#' then some { address with fragment := some (escape fragmentSpecials rest) }
      else if first = '?' then
        some { withTarget address [] chars with segments := address.segments }
      else if isSlash first then
        if (rest.head?.map isSlash).getD false then ofHost? address.isSecure (rest.drop 1)
        else some (withTarget address [] rest)
      else some (withTarget address address.segments.dropLast chars)

end WebAddress

end ScriptLint
