import ScriptLint.Cache.Headers

/-!
# Headers of responses

A response comes with any number of headers, whose names are compared without regard to capital
letters.  Of these the headers that help to judge a page later are kept, the first of each name,
if its value is visible text that is not blank.
-/

namespace ScriptLint

/-- What is wrong with a header. -/
inductive HeaderFault where
  | name
  | value
deriving DecidableEq, Repr

/-- A header of a response. -/
structure ResponseHeader where
  /-- The name, in small letters. -/
  name : String
  value : List UInt8
deriving DecidableEq, Repr

namespace ResponseHeader

def isNameChar (c : Char) : Bool :=
  c.isAlphanum || "!#$%&'*+-.^_|~".toList.contains c || c.toNat == 96

def isValueByte (byte : UInt8) : Bool :=
  byte == 9 || (32 ≤ byte && byte != 127)

def make (name : String) (value : List UInt8) : Except HeaderFault ResponseHeader :=
  if name.isEmpty || !name.toList.all isNameChar then .error .name
  else if !value.all isValueByte then .error .value
  else .ok ⟨name.map Char.toLower, value⟩

/-- The text of a value, if it is visible and not blank, without the blanks at its ends. -/
def visibleText? (value : List UInt8) : Option String :=
  if value.all fun byte => byte == 9 || (32 ≤ byte && byte < 127) then
    let text := Text.trim (value.map fun byte => Char.ofNat byte.toNat)
    if text.isEmpty then none else some (String.ofList text)
  else none

def text? (headers : List ResponseHeader) (name : String) : Option String :=
  (headers.find? fun header => header.name == name).bind fun header => visibleText? header.value

def validation (headers : List ResponseHeader) : ValidationHeaders :=
  ⟨text? headers "etag", text? headers "last-modified", text? headers "cache-control",
    text? headers "expires", text? headers "date"⟩

end ResponseHeader

end ScriptLint
