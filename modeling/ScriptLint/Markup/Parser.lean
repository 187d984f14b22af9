import ScriptLint.Markup.Construction.Rules

/-!
# Parsing markup

Any text is a page: characters are read one by one, and each token they complete is built into the
tree at once, since an element may make the text inside it raw.
-/

namespace ScriptLint.Markup

/-- The state between two characters of a page. -/
structure Parser where
  lexing : Lexing
  builder : Builder

namespace Parser

def start : Parser :=
  ⟨.start, .start⟩

def take (parser : Parser) (token : Token) : Parser :=
  match parser.builder.process token with
  | (.raw kind element, builder) => ⟨.ofRaw kind element, builder⟩
  | (.plain, builder) => ⟨.plain [], builder⟩
  | (_, builder) => ⟨parser.lexing, builder⟩

def read (parser : Parser) (c : Char) : Parser :=
  let (lexing, tokens) := parser.lexing.read parser.builder.isForeign c
  tokens.foldl take ⟨lexing, parser.builder⟩

def readAll (parser : Parser) (chars : List Char) : Parser :=
  chars.foldl read parser

def finish (parser : Parser) : Tree :=
  ((parser.lexing.finish ++ [Token.endOfText]).foldl take parser).builder.tree

end Parser

/-- The characters of a markup text as they are read: without a mark of the byte order, and with
line feeds at the ends of lines. -/
def readable (markup : String) : List Char :=
  match normalizeLineEnds markup.toList with
  | c :: rest => if c.toNat = 0xFEFF then rest else c :: rest
  | [] => []

def Tree.ofMarkup (markup : String) : Tree :=
  (Parser.start.readAll (readable markup)).finish

end ScriptLint.Markup
