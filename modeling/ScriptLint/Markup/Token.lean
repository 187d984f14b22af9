/-!
# Tokens of a markup text

A markup text is a row of tags, runs of text, comments and at most one useful document type.  Text
is kept in runs of blanks and runs of other characters, since many places treat the two
differently; a null character is a token of its own for the same reason.
-/

namespace ScriptLint.Markup

/-- A name with a value inside a start tag. -/
structure Attribute where
  /-- The name, in small letters unless the markup is foreign. -/
  name : String
  value : String
deriving DecidableEq, Repr

/-- A start tag. -/
structure Tag where
  /-- The name, in small letters unless the markup is foreign. -/
  name : String
  /-- The attributes, the first of each name. -/
  attributes : List Attribute
  selfClosing : Bool
deriving DecidableEq, Repr

namespace Tag

def value? (tag : Tag) (name : String) : Option String :=
  (tag.attributes.find? fun entry => entry.name == name).map Attribute.value

end Tag

/-- A declaration of the document type. -/
structure Doctype where
  /-- The name, in small letters. -/
  name : Option String
  publicId : Option String
  systemId : Option String
  broken : Bool
deriving DecidableEq, Repr

/-- A token of a markup text. -/
inductive Token where
  | doctype (declaration : Doctype)
  | startTag (tag : Tag)
  | endTag (name : String)
  | blanks (chars : List Char)
  /-- A run of characters that are neither blank nor null. -/
  | chars (chars : List Char)
  | null
  /-- A comment, whose text is not kept. -/
  | comment
  | endOfText
deriving DecidableEq, Repr

def isMarkupBlank (c : Char) : Bool :=
  c == ' ' || c == '\t' || c == '\n' || c == '\r' || c.toNat == 12

/-- The kind of token that a character of a text belongs to: zero for null characters, one for
blanks, two for others. -/
def textKind (c : Char) : Nat :=
  if c.toNat = 0 then 0 else if isMarkupBlank c then 1 else 2

def textTokens (chars : List Char) : List Token :=
  (chars.splitBy fun left right => textKind left == textKind right && textKind left != 0).map
    fun run =>
      match run with
      | c :: _ =>
        if textKind c = 0 then .null else if textKind c = 1 then .blanks run else .chars run
      | [] => .blanks []

namespace Doctype

/-- A text without the blanks at its front. -/
def skipBlanks (chars : List Char) : List Char :=
  chars.dropWhile isMarkupBlank

/-- Whether a text begins with a word in small letters, in any case. -/
def beginsWith (word : String) (chars : List Char) : Bool :=
  word.toList.isPrefixOf (chars.map Char.toLower)

/-- A quoted identifier at the front of a text: the identifier, the text behind it, and whether its
closing quote is missing. -/
def readIdentifier? : List Char → Option (String × List Char × Bool)
  | quote :: rest =>
    if quote = '"' ∨ quote = '\'' then
      let inner := rest.takeWhile (· != quote)
      let behind := rest.drop inner.length
      some (String.ofList inner, behind.drop 1, behind.isEmpty)
    else none
  | [] => none

/-- The declaration with the given text between its keyword and its closing bracket. -/
def ofText (chars : List Char) : Doctype :=
  match skipBlanks chars with
  | [] => ⟨none, none, none, true⟩
  | named =>
    let name := String.ofList ((named.takeWhile fun c => !isMarkupBlank c).map Char.toLower)
    let behindName := skipBlanks (named.dropWhile fun c => !isMarkupBlank c)
    if behindName.isEmpty then ⟨some name, none, none, false⟩
    else if beginsWith "public" behindName then
      match readIdentifier? (skipBlanks (behindName.drop 6)) with
      | none => ⟨some name, none, none, true⟩
      | some (publicId, behindPublic, true) =>
        ⟨some name, some publicId, none, behindPublic.isEmpty⟩
      | some (publicId, behindPublic, false) =>
        let rest := skipBlanks behindPublic
        if rest.isEmpty then ⟨some name, some publicId, none, false⟩
        else
          match readIdentifier? rest with
          | none => ⟨some name, some publicId, none, true⟩
          | some (systemId, _, broken) => ⟨some name, some publicId, some systemId, broken⟩
    else if beginsWith "system" behindName then
      match readIdentifier? (skipBlanks (behindName.drop 6)) with
      | none => ⟨some name, none, none, true⟩
      | some (systemId, _, broken) => ⟨some name, none, some systemId, broken⟩
    else ⟨some name, none, none, true⟩

/-- How the descriptions of the document types of old pages begin, in small letters. -/
def oldDescriptions : List String :=
  ["dtd html 2.0//", "dtd html 2.0 level 1//", "dtd html 2.0 level 2//", "dtd html 2.0 strict//",
    "dtd html 2.0 strict level 1//", "dtd html 2.0 strict level 2//", "dtd html 2.0 extended//",
    "dtd html 2.1e//", "dtd html 3//", "dtd html 3.0//", "dtd html 3.2//", "dtd html 3.2 final//",
    "dtd html 3.2 draft//", "dtd html 3.2s draft//", "dtd html 3 1995-03-24//",
    "dtd html 4.0 frameset//", "dtd html 4.0 transitional//", "dtd html experimental 19960712//",
    "dtd html experimental 970421//", "dtd html extended 1.0//",
    "dtd html extended relaxed 1.0//", "dtd html level 0//", "dtd html level 1//",
    "dtd html level 2//", "dtd html level 3//", "dtd html strict//", "dtd html strict level 0//",
    "dtd html strict level 1//", "dtd html strict level 2//", "dtd html strict level 3//",
    "dtd html//", "dtd strict html//"]

/-- How the descriptions begin whose pages are old unless a system identifier stands beside the
public one, in small letters. -/
def agedDescriptions : List String :=
  ["dtd html 4.01 frameset//", "dtd html 4.01 transitional//"]

/-- The description in a public identifier: what stands behind its owner. -/
def descriptionOf (publicId : List Char) : List Char :=
  let behindMark := (publicId.dropWhile (· != '/')).dropWhile (· == '/')
  (behindMark.dropWhile (· != '/')).dropWhile (· == '/')

def isOld (declaration : Doctype) : Bool :=
  let publicId := (declaration.publicId.getD "").toList.map Char.toLower
  let describedBy (starts : List String) : Bool :=
    starts.any fun start => start.toList.isPrefixOf (descriptionOf publicId)
  declaration.broken || declaration.name != some "html" ||
    publicId == "html".toList || describedBy oldDescriptions ||
    (declaration.systemId.isNone && describedBy agedDescriptions)

end Doctype

end ScriptLint.Markup
