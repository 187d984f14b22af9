import ScriptLint.Markup.Lexer
import ScriptLint.Markup.Tree

/-!
# The state of construction

A tree is built token by token.  The state keeps the elements that are open, the latest first, the
formatting that has to be taken up again when it was closed by something else, and the mode, which
says which part of a page is being built.  Broken tables send what may not stand in them to the
place before the table.
-/

namespace ScriptLint.Markup

/-- The part of a page that is being built. -/
inductive Mode where
  | initial
  | beforeHtml
  | beforeHead
  | inHead
  | afterHead
  | inBody
  | inText
  | inTable
  | inTableText
  | inCaption
  | inColumnGroup
  | inTableBody
  | inRow
  | inCell
  | inSelect
  | inSelectInTable
  | inTemplate
  | afterBody
  | inFrameset
  | afterFrameset
  | afterAfterBody
  | afterAfterFrameset
deriving DecidableEq, Repr

/-- An element that is open. -/
structure OpenElement where
  index : Nat
  name : ElementName
deriving DecidableEq, Repr

/-- An entry of the list of active formatting. -/
inductive Formatting where
  /-- Formatting before this place is not taken up behind it. -/
  | marker
  | element (index : Nat) (tag : Tag)
deriving DecidableEq, Repr

/-- The state of construction. -/
structure Builder where
  tree : Tree
  mode : Mode
  returnMode : Mode
  /-- The modes of the open templates, the latest first. -/
  templateModes : List Mode
  /-- The open elements, the latest first. -/
  opened : List OpenElement
  /-- The active formatting, the latest first. -/
  formatting : List Formatting
  head : Option OpenElement
  form : Option Nat
  framesAllowed : Bool
  dropsLineFeed : Bool
  /-- Whether what may not stand in a table goes before the table. -/
  fostering : Bool
  /-- The text tokens gathered inside a table, the latest first. -/
  tableText : List Token
  /-- Whether tables may stand in paragraphs, as in old pages. -/
  oldLayout : Bool

/-- What is to be done behind a step. -/
inductive Next where
  | done
  /-- The token is processed again in the present mode. -/
  | again
  /-- The token is used up, and the text of the element that it opened is raw. -/
  | raw (kind : RawKind) (element : String)
  /-- The token is used up, and all that follows is text. -/
  | plain
deriving DecidableEq, Repr

abbrev Step := Next × Builder

namespace Builder

def start : Builder where
  tree := .root
  mode := .initial
  returnMode := .initial
  templateModes := []
  opened := []
  formatting := []
  head := none
  form := none
  framesAllowed := true
  dropsLineFeed := false
  fostering := false
  tableText := []
  oldLayout := false

def done (builder : Builder) : Step :=
  (.done, builder)

/-- The step that processes a token again in another mode. -/
def againIn (builder : Builder) (mode : Mode) : Step :=
  (.again, { builder with mode })

def withMode (builder : Builder) (mode : Mode) : Builder :=
  { builder with mode }

def withoutFrames (builder : Builder) : Builder :=
  { builder with framesAllowed := false }

def currentIs (builder : Builder) (wanted : NameClass) : Bool :=
  builder.opened.head?.any fun element => wanted element.name

def isForeign (builder : Builder) : Bool :=
  builder.currentIs fun name => name.vocabulary != .page

/-- Whether an element that is wanted stands among open elements, the latest first, before one
that stops the search. -/
def finds (wanted : OpenElement → Bool) (stop : NameClass) : List OpenElement → Bool
  | [] => false
  | element :: rest => wanted element || (!stop element.name && finds wanted stop rest)

def hasInScope (builder : Builder) (stop wanted : NameClass) : Bool :=
  finds (fun element => wanted element.name) stop builder.opened

def hasNamedInScope (builder : Builder) (stop : NameClass) (name : String) : Bool :=
  builder.hasInScope stop (ElementName.isNamed name)

def hasOpen (builder : Builder) (name : String) : Bool :=
  builder.opened.any fun element => ElementName.isNamed name element.name

def pop (builder : Builder) : Builder :=
  { builder with opened := builder.opened.tail }

def popWhile (builder : Builder) (passed : NameClass) : Builder :=
  { builder with opened := builder.opened.dropWhile fun element => passed element.name }

/-- Closes the open elements up to one of a class, which is left open. -/
def popUntilCurrent (builder : Builder) (wanted : NameClass) : Builder :=
  builder.popWhile fun name => !wanted name

/-- Closes the open elements up to and with one of a class. -/
def popUntil (builder : Builder) (wanted : NameClass) : Builder :=
  (builder.popUntilCurrent wanted).pop

def popUntilNamed (builder : Builder) (name : String) : Builder :=
  builder.popUntil (ElementName.isNamed name)

def closeSilently (builder : Builder) : Builder :=
  builder.popWhile ElementName.closesSilently

/-- Closes silently what may end here, but not the elements of a name. -/
def closeSilentlyExcept (builder : Builder) (name : String) : Builder :=
  builder.popWhile fun element => element.closesSilently && !ElementName.isNamed name element

def closeNamed (builder : Builder) (name : String) : Builder :=
  (builder.closeSilentlyExcept name).popUntilNamed name

/-- Closes the open paragraph, if there is one in scope. -/
def closeParagraph (builder : Builder) : Builder :=
  if builder.hasNamedInScope ElementName.endsButtonScope "p" then builder.closeNamed "p"
  else builder

def removeOpen (builder : Builder) (index : Nat) : Builder :=
  { builder with opened := builder.opened.eraseP fun element => element.index == index }

/-- The body, if it is the second element that was opened and is still open. -/
def body? (builder : Builder) : Option Nat :=
  match builder.opened.reverse with
  | _ :: second :: _ => if ElementName.isNamed "body" second.name then some second.index else none
  | _ => none

/-- A place for a new node. -/
inductive Place where
  | last (parent : Nat)
  /-- Before a table if that has a parent, else behind the last child of another node. -/
  | beforeTable (table fallback : Nat)

/-- The place into which a node's children go: for a template, what it holds. -/
def contentsOf (tree : Tree) (element : OpenElement) : Nat :=
  if ElementName.isNamed "template" element.name then
    match (tree.childrenOf element.index).getLast? with
    | some (.node fragment) => fragment
    | _ => element.index
  else element.index

/-- The place for what may not stand in a table, given the open elements. -/
def fosterPlace (tree : Tree) : List OpenElement → Place
  | [] => .last 0
  | [root] => .last root.index
  | element :: below :: rest =>
    if ElementName.isNamed "template" element.name then .last (contentsOf tree element)
    else if ElementName.isNamed "table" element.name then .beforeTable element.index below.index
    else fosterPlace tree (below :: rest)

def placeIn (builder : Builder) (target : OpenElement) : Place :=
  if builder.fostering ∧ ElementName.holdsTableParts target.name then
    fosterPlace builder.tree builder.opened
  else .last (contentsOf builder.tree target)

/-- The place for a new node: in the latest open element. -/
def place (builder : Builder) : Place :=
  match builder.opened with
  | [] => .last 0
  | current :: _ => builder.placeIn current

def insertAt (builder : Builder) (place : Place) (child : Child) : Builder :=
  let tree :=
    match place with
    | .last parent => builder.tree.append parent child
    | .beforeTable table fallback =>
      if (builder.tree.parent? table).isSome then builder.tree.appendBefore table child
      else builder.tree.append fallback child
  { builder with tree }

def appendText (builder : Builder) (chars : List Char) : Builder :=
  builder.insertAt builder.place (.text chars)

/-- Makes an element without a parent; a template gets a node for what it holds. -/
def createElement (builder : Builder) (name : ElementName) (attributes : List Attribute) :
    Nat × Builder :=
  let (index, tree) := builder.tree.create (.element name attributes)
  if name.isNamed "template" then
    let (fragment, larger) := tree.create .fragment
    (index, { builder with tree := larger.append index (.node fragment) })
  else (index, { builder with tree })

def addElement (builder : Builder) (name : ElementName) (attributes : List Attribute) :
    Nat × Builder :=
  let (index, created) := builder.createElement name attributes
  (index, created.insertAt builder.place (.node index))

def push (builder : Builder) (element : OpenElement) : Builder :=
  { builder with opened := element :: builder.opened }

def openElement (builder : Builder) (name : ElementName) (attributes : List Attribute) :
    OpenElement × Builder :=
  let (index, added) := builder.addElement name attributes
  (⟨index, name⟩, added.push ⟨index, name⟩)

def openTag (builder : Builder) (tag : Tag) : Builder :=
  (builder.openElement (.ofPage tag.name) tag.attributes).2

def openNamed (builder : Builder) (name : String) : Builder :=
  (builder.openElement (.ofPage name) []).2

/-- Adds the page element of a start tag, which holds nothing. -/
def addVoid (builder : Builder) (tag : Tag) : Builder :=
  (builder.addElement (.ofPage tag.name) tag.attributes).2

def openRoot (builder : Builder) (attributes : List Attribute) : Builder :=
  let (index, created) := builder.createElement (.ofPage "html") attributes
  (created.insertAt (.last 0) (.node index)).push ⟨index, .ofPage "html"⟩

def openRaw (builder : Builder) (tag : Tag) (kind : RawKind) : Step :=
  (.raw kind tag.name,
    { builder.openTag tag with returnMode := builder.mode, mode := .inText })

def selectMode : List OpenElement → Mode
  | [] => .inSelect
  | element :: rest =>
    if ElementName.isNamed "template" element.name then .inSelect
    else if ElementName.isNamed "table" element.name then .inSelectInTable
    else selectMode rest

/-- The mode that open elements call for, given that of the latest template and whether the page
has a head. -/
def modeFor (templateMode : Mode) (hasHead : Bool) : List OpenElement → Mode
  | [] => .inBody
  | element :: rest =>
    if element.name.vocabulary = .page then
      match element.name.name with
      | "select" => selectMode rest
      | "td" => if rest.isEmpty then modeFor templateMode hasHead rest else .inCell
      | "th" => if rest.isEmpty then modeFor templateMode hasHead rest else .inCell
      | "tr" => .inRow
      | "tbody" => .inTableBody
      | "thead" => .inTableBody
      | "tfoot" => .inTableBody
      | "caption" => .inCaption
      | "colgroup" => .inColumnGroup
      | "table" => .inTable
      | "template" => templateMode
      | "head" => if rest.isEmpty then modeFor templateMode hasHead rest else .inHead
      | "body" => .inBody
      | "frameset" => .inFrameset
      | "html" => if hasHead then .afterHead else .beforeHead
      | _ => modeFor templateMode hasHead rest
    else modeFor templateMode hasHead rest

def properMode (builder : Builder) : Mode :=
  modeFor (builder.templateModes.headD .inBody) builder.head.isSome builder.opened

def resetMode (builder : Builder) : Builder :=
  builder.withMode builder.properMode

end Builder

end ScriptLint.Markup
