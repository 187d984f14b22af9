/-!
# Decoding bytes

The text that bytes stand for in UTF-8.  Bytes that do not begin or continue a character there are
read as the replacement character, once for every longest beginning of a character.
-/

namespace ScriptLint.Text

/-- What has been read of a character. -/
structure PartialChar where
  missing : Nat
  value : Nat
  least : UInt8
  greatest : UInt8

namespace PartialChar

def none : PartialChar :=
  ⟨0, 0, 0x80, 0xBF⟩

def begin? (byte : UInt8) : Option PartialChar :=
  if 0xC2 ≤ byte ∧ byte ≤ 0xDF then some ⟨1, byte.toNat - 0xC0, 0x80, 0xBF⟩
  else if byte = 0xE0 then some ⟨2, 0, 0xA0, 0xBF⟩
  else if byte = 0xED then some ⟨2, 0xD, 0x80, 0x9F⟩
  else if 0xE1 ≤ byte ∧ byte ≤ 0xEF then some ⟨2, byte.toNat - 0xE0, 0x80, 0xBF⟩
  else if byte = 0xF0 then some ⟨3, 0, 0x90, 0xBF⟩
  else if byte = 0xF4 then some ⟨3, 4, 0x80, 0x8F⟩
  else if 0xF1 ≤ byte ∧ byte ≤ 0xF3 then some ⟨3, byte.toNat - 0xF0, 0x80, 0xBF⟩
  else Option.none

end PartialChar

def replacementChar : Char := '\ufffd'

def decodeFirst (byte : UInt8) : List Char × PartialChar :=
  if byte < 0x80 then ([Char.ofNat byte.toNat], .none)
  else
    match PartialChar.begin? byte with
    | some begun => ([], begun)
    | none => ([replacementChar], .none)

def decodeByte (read : PartialChar) (byte : UInt8) : List Char × PartialChar :=
  if read.missing = 0 then decodeFirst byte
  else if read.least ≤ byte ∧ byte ≤ read.greatest then
    let value := read.value * 64 + (byte.toNat - 0x80)
    if read.missing = 1 then ([Char.ofNat value], .none)
    else ([], ⟨read.missing - 1, value, 0x80, 0xBF⟩)
  else
    let (chars, next) := decodeFirst byte
    (replacementChar :: chars, next)

def decodeBytes : PartialChar → List UInt8 → List Char
  | read, [] => if read.missing = 0 then [] else [replacementChar]
  | read, byte :: rest =>
    let (chars, next) := decodeByte read byte
    chars ++ decodeBytes next rest

def decode (bytes : List UInt8) : String :=
  String.ofList (decodeBytes .none bytes)

end ScriptLint.Text
