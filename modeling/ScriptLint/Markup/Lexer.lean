import ScriptLint.Markup.Reference
import ScriptLint.Markup.Token

/-!
# Reading tokens

Tokens are read character by character: a state says what has been begun, and each character leads
to the next state and to the tokens that it completes.  Inside some elements the text is raw: only
the end tag of the element itself ends it.  Texts are gathered with the latest character first.
-/

namespace ScriptLint.Markup

def normalizeLineEnds : List Char → List Char
  | '\r' :: '\n' :: rest => '\n' :: normalizeLineEnds rest
  | '\r' :: rest => '\n' :: normalizeLineEnds rest
  | c :: rest => c :: normalizeLineEnds rest
  | [] => []

/-- How the text inside an element is read. -/
inductive RawKind where
  | references
  | verbatim
  /-- Nothing is resolved, and a comment may hide end tags. -/
  | script
deriving DecidableEq, Repr

/-- How deep a script text is inside comments and scripts of its own. -/
inductive Hiding where
  | none
  | comment
  /-- Inside a script inside a comment, where end tags are hidden. -/
  | nested
deriving DecidableEq, Repr

/-- What has been begun in a raw text. -/
inductive RawPhase where
  | text
  | dash
  | dashes
  | bracket
  /-- An opening bracket, a slash, and letters. -/
  | endName (letters : List Char)
  /-- The beginning of a comment, up to its exclamation mark. -/
  | commentMark
  /-- The beginning of a comment, up to its first dash. -/
  | commentDash
  | nestedName (letters : List Char)
  | nestedBracket
  | nestedEndName (letters : List Char)

/-- The reading of a raw text. -/
structure RawText where
  kind : RawKind
  element : String
  text : List Char
  hidden : Hiding
  phase : RawPhase

/-- What has been begun inside a tag behind its name. -/
inductive TagPhase where
  /-- Nothing: an attribute may follow. -/
  | gap
  | name (letters : List Char)
  | afterName (letters : List Char)
  | beforeValue (name : List Char)
  | quoted (quote : Char) (name value : List Char)
  /-- A value without quotes. -/
  | unquoted (name value : List Char)
  | afterQuoted
  | slash

/-- The reading of a tag behind its name. -/
structure TagText where
  closing : Bool
  name : String
  /-- The attributes so far, the latest first. -/
  attributes : List Attribute
  phase : TagPhase

/-- How a comment may be near its end. -/
inductive CommentPhase where
  | start
  | startDash
  | text
  | dash
  | dashes
  | mark
deriving DecidableEq, Repr

/-- What has been begun in a markup text. -/
inductive Lexing where
  | text (chars : List Char)
  /-- A text that nothing ends. -/
  | plain (chars : List Char)
  | raw (text : RawText)
  | bracket
  | endBracket
  | tagName (closing : Bool) (letters : List Char)
  | tag (text : TagText)
  /-- An opening bracket and an exclamation mark, with what follows. -/
  | declaration (seen : List Char)
  | bogus
  | comment (phase : CommentPhase)
  | doctype (chars : List Char)
  | characterData (chars : List Char)

namespace RawText

/-- A raw text with one more character. -/
def push (raw : RawText) (c : Char) (phase : RawPhase) : RawText :=
  { raw with text := (if c.toNat = 0 then replacementChar else c) :: raw.text, phase }

/-- A raw text with characters added, the latest first. -/
def pushAll (raw : RawText) (latestFirst : List Char) : RawText :=
  { raw with text := latestFirst ++ raw.text }

def tokens (raw : RawText) : List Token :=
  let chars := raw.text.reverse
  match raw.kind with
  | .references => textTokens (resolveReferences false chars)
  | _ => textTokens chars

def readText (raw : RawText) (c : Char) : RawText :=
  match raw.hidden with
  | .none => if c = '<' then { raw with phase := .bracket } else raw.push c .text
  | .comment =>
    if c = '-' then raw.push c .dash
    else if c = '<' then { raw with phase := .bracket }
    else raw.push c .text
  | .nested =>
    if c = '-' then raw.push c .dash
    else if c = '<' then raw.push c .nestedBracket
    else raw.push c .text

def readDashes (raw : RawText) (c : Char) : RawText :=
  if c = '-' then raw.push c .dashes
  else if c = '>' then { raw.push c .text with hidden := .none }
  else raw.readText c

def endsName (c : Char) : Bool :=
  isMarkupBlank c || c == '/' || c == '>'

/-- Whether letters, the latest first, spell a name in any case. -/
def spells (letters : List Char) (name : String) : Bool :=
  letters.reverse.map Char.toLower == name.toList

def readNestedName (raw : RawText) (letters : List Char) (resume : List Char → RawPhase)
    (onScript otherwise : Hiding) (c : Char) : RawText :=
  if endsName c then
    { raw.push c .text with hidden := if spells letters "script" then onScript else otherwise }
  else if c.isAlpha then raw.push c (resume (c :: letters))
  else raw.readText c

end RawText

def beginTag (closing : Bool) (letters : List Char) (phase : TagPhase) : TagText :=
  ⟨closing, String.ofList (letters.reverse.map Char.toLower), [], phase⟩

namespace TagText

/-- A tag with an attribute, unless it has one of that name.  Both texts come with the latest
character first. -/
def addAttribute (tag : TagText) (name value : List Char) (phase : TagPhase) : TagText :=
  let named := String.ofList name.reverse
  if tag.attributes.any fun entry => entry.name == named then { tag with phase }
  else
    let resolved := resolveReferences true value.reverse
    { tag with attributes := ⟨named, String.ofList resolved⟩ :: tag.attributes, phase }

def token (tag : TagText) (selfClosing : Bool) : Token :=
  if tag.closing then .endTag tag.name
  else .startTag ⟨tag.name, tag.attributes.reverse, selfClosing⟩

/-- A character of a name or a value, null characters replaced. -/
def visible (c : Char) : Char :=
  if c.toNat = 0 then replacementChar else c

/-- A tag, still being read, or the token of a tag that has ended. -/
abbrev Progress := TagText ⊕ Token

def readGap (tag : TagText) (c : Char) : Progress :=
  if isMarkupBlank c then .inl { tag with phase := .gap }
  else if c = '/' then .inl { tag with phase := .slash }
  else if c = '>' then .inr (tag.token false)
  else .inl { tag with phase := .name [visible c.toLower] }

def readAfterName (tag : TagText) (name : List Char) (c : Char) : Progress :=
  if isMarkupBlank c then .inl { tag with phase := .afterName name }
  else if c = '=' then .inl { tag with phase := .beforeValue name }
  else (tag.addAttribute name [] .gap).readGap c

def read (tag : TagText) (c : Char) : Progress :=
  match tag.phase with
  | .gap => tag.readGap c
  | .name letters =>
    if isMarkupBlank c ∨ c = '/' ∨ c = '=' ∨ c = '>' then tag.readAfterName letters c
    else .inl { tag with phase := .name (visible c.toLower :: letters) }
  | .afterName letters => tag.readAfterName letters c
  | .beforeValue name =>
    if isMarkupBlank c then .inl tag
    else if c = '"' ∨ c = '\'' then .inl { tag with phase := .quoted c name [] }
    else if c = '>' then .inr ((tag.addAttribute name [] .gap).token false)
    else .inl { tag with phase := .unquoted name [visible c] }
  | .quoted quote name value =>
    if c = quote then .inl (tag.addAttribute name value .afterQuoted)
    else .inl { tag with phase := .quoted quote name (visible c :: value) }
  | .unquoted name value =>
    if isMarkupBlank c ∨ c = '>' then (tag.addAttribute name value .gap).readGap c
    else .inl { tag with phase := .unquoted name (visible c :: value) }
  | .afterQuoted => tag.readGap c
  | .slash => if c = '>' then .inr (tag.token true) else tag.readGap c

end TagText

namespace RawText

/-- Reads a character of a raw text: the state it leads to, and the tokens it completes. -/
def read (raw : RawText) (c : Char) : Lexing × List Token :=
  let on (next : RawText) : Lexing × List Token := (.raw next, [])
  match raw.phase with
  | .text => on (raw.readText c)
  | .dash => on (if c = '-' then raw.push c .dashes else raw.readText c)
  | .dashes => on (raw.readDashes c)
  | .bracket =>
    if c = '/' then on { raw with phase := .endName [] }
    else if raw.kind = .script ∧ raw.hidden = .none ∧ c = '!' then
      on ((raw.pushAll ['<']).push c .commentMark)
    else if raw.kind = .script ∧ raw.hidden = .comment ∧ c.isAlpha then
      on ((raw.pushAll ['<']).push c (.nestedName [c]))
    else on ((raw.pushAll ['<']).readText c)
  | .endName letters =>
    if c.isAlpha then on { raw with phase := .endName (c :: letters) }
    else if endsName c ∧ spells letters raw.element then
      match (beginTag true letters .gap).readGap c with
      | .inl tag => (.tag tag, raw.tokens)
      | .inr token => (.text [], raw.tokens ++ [token])
    else on ((raw.pushAll (letters ++ ['/', '<'])).readText c)
  | .commentMark => on (if c = '-' then raw.push c .commentDash else raw.readText c)
  | .commentDash =>
    on (if c = '-' then { raw.push c .dashes with hidden := .comment } else raw.readText c)
  | .nestedName letters => on (raw.readNestedName letters .nestedName .nested .comment c)
  | .nestedBracket => on (if c = '/' then raw.push c (.nestedEndName []) else raw.readText c)
  | .nestedEndName letters => on (raw.readNestedName letters .nestedEndName .comment .nested c)

def finish (raw : RawText) : List Token :=
  match raw.phase with
  | .bracket => (raw.pushAll ['<']).tokens
  | .endName letters => (raw.pushAll (letters ++ ['/', '<'])).tokens
  | _ => raw.tokens

end RawText

namespace CommentPhase

/-- Reads a character of a comment: the next phase, or nothing at the end of the comment. -/
def read (phase : CommentPhase) (c : Char) : Option CommentPhase :=
  match phase with
  | start => if c = '-' then some startDash else if c = '>' then none else some text
  | startDash => if c = '-' then some dashes else if c = '>' then none else some text
  | text => some (if c = '-' then dash else text)
  | dash => some (if c = '-' then dashes else text)
  | dashes =>
    if c = '>' then none
    else some (if c = '!' then mark else if c = '-' then dashes else text)
  | mark => if c = '>' then none else some (if c = '-' then dash else text)

end CommentPhase

namespace Lexing

def start : Lexing :=
  text []

def ofRaw (kind : RawKind) (element : String) : Lexing :=
  raw ⟨kind, element, [], .none, .text⟩

def ofProgress : TagText.Progress → Lexing × List Token
  | .inl tagText => (tag tagText, [])
  | .inr token => (text [], [token])

def readBogus (c : Char) : Lexing × List Token :=
  if c = '>' then (text [], [.comment]) else (bogus, [])

/-- Reads a character behind an opening bracket and an exclamation mark, given what was seen
before it, the latest first.  Character data may only stand inside foreign elements. -/
def readDeclaration (foreign : Bool) (seen : List Char) (c : Char) : Lexing × List Token :=
  let now := (c :: seen).reverse
  if now = "--".toList then (comment .start, [])
  else if now.map Char.toLower = "doctype".toList then (doctype [], [])
  else if foreign ∧ now = "[CDATA[".toList then (characterData [], [])
  else if now.isPrefixOf "--".toList ∨ (now.map Char.toLower).isPrefixOf "doctype".toList ∨
      (foreign ∧ now.isPrefixOf "[CDATA[".toList) then
    (declaration (c :: seen), [])
  else readBogus c

/-- Reads a character: the state it leads to, and the tokens it completes. -/
def read (foreign : Bool) (lexing : Lexing) (c : Char) : Lexing × List Token :=
  match lexing with
  | text chars =>
    if c = '<' then (bracket, textTokens (resolveReferences false chars.reverse))
    else (text (c :: chars), [])
  | plain chars => (plain ((if c.toNat = 0 then replacementChar else c) :: chars), [])
  | raw rawText => rawText.read c
  | bracket =>
    if c = '/' then (endBracket, [])
    else if c = '!' then (declaration [], [])
    else if c = '?' then (bogus, [])
    else if c.isAlpha then (tagName false [c], [])
    else if c = '<' then (bracket, [.chars ['<']])
    else (text [c, '<'], [])
  | endBracket =>
    if c.isAlpha then (tagName true [c], [])
    else if c = '>' then (text [], [])
    else (bogus, [])
  | tagName closing letters =>
    if RawText.endsName c then ofProgress ((beginTag closing letters .gap).readGap c)
    else (tagName closing (TagText.visible c :: letters), [])
  | tag tagText => ofProgress (tagText.read c)
  | declaration seen => readDeclaration foreign seen c
  | bogus => readBogus c
  | comment phase =>
    match phase.read c with
    | some next => (comment next, [])
    | none => (text [], [.comment])
  | doctype chars =>
    if c = '>' then (text [], [.doctype (Doctype.ofText chars.reverse)])
    else (doctype (c :: chars), [])
  | characterData chars =>
    if c = '>' ∧ [']', ']'].isPrefixOf chars then (text [], textTokens (chars.drop 2).reverse)
    else (characterData (c :: chars), [])

def finish : Lexing → List Token
  | text chars => textTokens (resolveReferences false chars.reverse)
  | plain chars => textTokens chars.reverse
  | raw rawText => rawText.finish
  | bracket => [.chars ['<']]
  | endBracket => [.chars ['<', '/']]
  | tagName _ _ => []
  | tag _ => []
  | declaration _ => [.comment]
  | bogus => [.comment]
  | comment _ => [.comment]
  | doctype chars => [.doctype { Doctype.ofText chars.reverse with broken := true }]
  | characterData chars => textTokens chars.reverse

end Lexing

end ScriptLint.Markup
