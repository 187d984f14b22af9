/-!
# Names of elements

An element has a name in one of three vocabularies.  The repair of broken markup rests on a few
classes of names: where the search for an open element stops, which elements are closed silently,
and which are too special to be closed by a stray end tag.
-/

namespace ScriptLint.Markup

/-- The vocabulary that an element belongs to. -/
inductive Vocabulary where
  | page
  | drawing
  | formula
deriving DecidableEq, Repr

/-- The name of an element in its vocabulary. -/
structure ElementName where
  vocabulary : Vocabulary
  name : String
deriving DecidableEq, Repr

abbrev NameClass := ElementName → Bool

namespace ElementName

def ofPage (name : String) : ElementName :=
  ⟨.page, name⟩

/-- Whether an element belongs to pages and has one of the given names. -/
def isAmong (names : List String) : NameClass :=
  fun element => element.vocabulary == .page && names.contains element.name

def isNamed (name : String) : NameClass :=
  fun element => element.vocabulary == .page && element.name == name

def holdsFormulaText : NameClass :=
  fun element =>
    element.vocabulary == .formula && ["mi", "mo", "mn", "ms", "mtext"].contains element.name

def holdsPageParts : NameClass :=
  fun element =>
    element.vocabulary == .drawing && ["foreignObject", "desc", "title"].contains element.name

def endsScope : NameClass :=
  fun element =>
    isAmong ["applet", "caption", "html", "table", "td", "th", "marquee", "object", "template"]
        element ||
      element.holdsFormulaText || element.holdsPageParts

def endsListScope : NameClass :=
  fun element => element.endsScope || isAmong ["ol", "ul"] element

def endsButtonScope : NameClass :=
  fun element => element.endsScope || isNamed "button" element

def endsTableScope : NameClass :=
  isAmong ["html", "table", "template"]

def endsSelectScope : NameClass :=
  fun element => !isAmong ["optgroup", "option"] element

def holdsRows : NameClass :=
  isAmong ["tbody", "tfoot", "thead", "template", "html"]

def holdsCells : NameClass :=
  isAmong ["tr", "template", "html"]

def isCell : NameClass :=
  isAmong ["td", "th"]

/-- The elements in which nothing but parts of a table may stand. -/
def holdsTableParts : NameClass :=
  isAmong ["table", "tbody", "tfoot", "thead", "tr"]

def closesSilently : NameClass :=
  isAmong ["dd", "dt", "li", "option", "optgroup", "p", "rb", "rp", "rt", "rtc"]

def closesSilentlyInTemplates : NameClass :=
  fun element =>
    element.closesSilently ||
      isAmong ["caption", "colgroup", "tbody", "td", "tfoot", "th", "thead", "tr"] element

def isHeading : NameClass :=
  isAmong ["h1", "h2", "h3", "h4", "h5", "h6"]

def specialNames : List String :=
  ["address", "applet", "area", "article", "aside", "base", "basefont", "bgsound", "blockquote",
    "body", "br", "button", "caption", "center", "col", "colgroup", "dd", "details", "dir", "div",
    "dl", "dt", "embed", "fieldset", "figcaption", "figure", "footer", "form", "frame",
    "frameset", "h1", "h2", "h3", "h4", "h5", "h6", "head", "header", "hgroup", "hr", "html",
    "iframe", "img", "input", "isindex", "li", "link", "listing", "main", "marquee", "menu",
    "meta", "nav", "noembed", "noframes", "noscript", "object", "ol", "p", "param", "plaintext",
    "pre", "script", "section", "select", "source", "style", "summary", "table", "tbody", "td",
    "template", "textarea", "tfoot", "th", "thead", "title", "tr", "track", "ul", "wbr", "xmp"]

/-- The elements that a stray end tag does not close. -/
def isSpecial : NameClass :=
  isAmong specialNames

def endsItemSearch : NameClass :=
  fun element => element.isSpecial && !isAmong ["address", "div", "p"] element

def drawingNames : List String :=
  ["altGlyph", "altGlyphDef", "altGlyphItem", "animateColor", "animateMotion",
    "animateTransform", "clipPath", "feBlend", "feColorMatrix", "feComponentTransfer",
    "feComposite", "feConvolveMatrix", "feDiffuseLighting", "feDisplacementMap",
    "feDistantLight", "feDropShadow", "feFlood", "feFuncA", "feFuncB", "feFuncG", "feFuncR",
    "feGaussianBlur", "feImage", "feMerge", "feMergeNode", "feMorphology", "feOffset",
    "fePointLight", "feSpecularLighting", "feSpotLight", "feTile", "feTurbulence",
    "foreignObject", "glyphRef", "linearGradient", "radialGradient", "textPath"]

/-- The name of an element as its vocabulary writes it, given in small letters. -/
def properName (vocabulary : Vocabulary) (name : String) : String :=
  match vocabulary with
  | .drawing => (drawingNames.find? fun proper => proper.map Char.toLower == name).getD name
  | _ => name

end ElementName

end ScriptLint.Markup
