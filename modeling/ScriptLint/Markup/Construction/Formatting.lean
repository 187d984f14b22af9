import ScriptLint.Markup.Construction.Builder

/-!
# Active formatting

Formatting elements that other elements closed are opened again before the next text.  An end tag
of a formatting element that has blocks open inside it splits the element: a copy goes into the
innermost block, and what stands between the two is copied as well.
-/

namespace ScriptLint.Markup.Builder

def isSettled (opened : List OpenElement) : Formatting → Bool
  | .marker => true
  | .element index _ => opened.any fun element => element.index == index

/-- Opens the elements of entries again, the earliest one first, given the latest first: the
entries for the new elements, and the state. -/
def reopen : List Formatting → Builder → List Formatting × Builder
  | [], builder => ([], builder)
  | .marker :: rest, builder =>
    let (entries, opened) := reopen rest builder
    (.marker :: entries, opened)
  | .element _ tag :: rest, builder =>
    let (entries, opened) := reopen rest builder
    let (element, last) := opened.openElement (.ofPage tag.name) tag.attributes
    (.element element.index tag :: entries, last)

/-- Opens again what was closed behind the last marker or open element. -/
def takeUpFormatting (builder : Builder) : Builder :=
  let closed := builder.formatting.takeWhile fun entry => !isSettled builder.opened entry
  let (entries, opened) := reopen closed builder
  { opened with formatting := entries ++ builder.formatting.drop closed.length }

def markFormatting (builder : Builder) : Builder :=
  { builder with formatting := .marker :: builder.formatting }

/-- Forgets the active formatting behind the last marker, and the marker. -/
def forgetToMarker (builder : Builder) : Builder :=
  { builder with formatting := (builder.formatting.dropWhile (· != .marker)).tail }

def sameTag (left right : Tag) : Bool :=
  left.name == right.name && left.attributes.length == right.attributes.length &&
    left.attributes.all fun entry => right.attributes.contains entry

/-- Whether an entry was made for a tag like the given one. -/
def isLike (tag : Tag) : Formatting → Bool
  | .marker => false
  | .element _ other => sameTag tag other

def isEntryOf (index : Nat) : Formatting → Bool
  | .marker => false
  | .element other _ => other == index

/-- A list of entries without the last one that was made for a tag like the given one. -/
def dropEarliestLike (tag : Tag) (entries : List Formatting) : List Formatting :=
  (entries.reverse.eraseP (isLike tag)).reverse

/-- Opens a formatting element.  Of like ones behind the last marker only three stay active. -/
def openFormatting (builder : Builder) (tag : Tag) : Builder :=
  let recent := builder.formatting.takeWhile (· != .marker)
  let kept :=
    if 3 ≤ recent.countP (isLike tag) then dropEarliestLike tag recent else recent
  let (element, opened) := builder.openElement (.ofPage tag.name) tag.attributes
  { opened with
    formatting :=
      .element element.index tag :: kept ++ builder.formatting.drop recent.length }

/-- The latest active formatting element of a name, with its tag. -/
def activeNamed? (name : String) : List Formatting → Option (Nat × Tag)
  | [] => none
  | .marker :: _ => none
  | .element index tag :: rest =>
    if tag.name = name then some (index, tag) else activeNamed? name rest

/-- The open elements that stay open behind an end tag of the given name, if one of its elements
is open above every special one. -/
def openBelowNamed? (name : String) : List OpenElement → Option (List OpenElement)
  | [] => none
  | element :: rest =>
    if ElementName.isNamed name element.name then some rest
    else if ElementName.isSpecial element.name then none
    else openBelowNamed? name rest

def closeAny (builder : Builder) (name : String) : Builder :=
  match openBelowNamed? name builder.opened with
  | none => builder
  | some rest => { builder with opened := rest }

def forgetEntry (builder : Builder) (index : Nat) : Builder :=
  { builder with formatting := builder.formatting.eraseP (isEntryOf index) }

/-- Puts an element in the place of another one among the open elements and the entries. -/
def replaceElement (builder : Builder) (old new : OpenElement) (tag : Tag) : Builder :=
  { builder with
    opened := builder.opened.map fun element => if element = old then new else element
    formatting :=
      builder.formatting.map fun entry =>
        if isEntryOf old.index entry then .element new.index tag else entry }

def tagOf? (builder : Builder) (index : Nat) : Option Tag :=
  builder.formatting.findSome? fun entry =>
    match entry with
    | .element other tag => if other = index then some tag else none
    | .marker => none

/-- The state while the elements between a block and a formatting element are copied. -/
structure Chain where
  builder : Builder
  /-- The last node of the chain, which goes into the next one. -/
  last : Nat
  /-- The first copy, if there is one. -/
  first : Option Nat
  count : Nat

/-- Looks at an element between a block and a formatting element, going outward.  The first three
are copied if they are active formatting; all others are closed. -/
def Chain.step (chain : Chain) (element : OpenElement) : Chain :=
  let count := chain.count + 1
  let drop (builder : Builder) : Chain :=
    { chain with builder := builder.removeOpen element.index, count }
  match chain.builder.tagOf? element.index with
  | none => drop chain.builder
  | some tag =>
    if 3 < count then drop (chain.builder.forgetEntry element.index)
    else
      let name := ElementName.ofPage tag.name
      let (index, created) := chain.builder.createElement name tag.attributes
      let replaced := created.replaceElement element ⟨index, name⟩ tag
      { builder := { replaced with tree := replaced.tree.append index (.node chain.last) }
        last := index
        first := some (chain.first.getD index)
        count }

def insertEntryAfter (index : Nat) (entry : Formatting) : List Formatting → List Formatting
  | [] => [entry]
  | first :: rest =>
    if isEntryOf index first then entry :: first :: rest
    else first :: insertEntryAfter index entry rest

/-- Puts an element above another one among the open elements. -/
def insertOpenAbove (index : Nat) (element : OpenElement) : List OpenElement → List OpenElement
  | [] => [element]
  | first :: rest =>
    if first.index = index then element :: first :: rest
    else first :: insertOpenAbove index element rest

/-- Splits an open formatting element around the outermost block above it, given the elements
between the two, going outward, and the element in which the formatting element stands. -/
def splitFormatting (builder : Builder) (formatted : OpenElement) (tag : Tag)
    (block : OpenElement) (between : List OpenElement) (ancestor : OpenElement) : Builder :=
  let chain := between.foldl Chain.step ⟨builder, block.index, none, 0⟩
  let freed := { chain.builder with tree := chain.builder.tree.detach chain.last }
  let moved := freed.insertAt (freed.placeIn ancestor) (.node chain.last)
  let name := ElementName.ofPage tag.name
  let (index, created) := moved.createElement name tag.attributes
  let tree := (created.tree.moveChildren block.index index).append block.index (.node index)
  let entry := Formatting.element index tag
  let formatting :=
    match chain.first with
    | none =>
      created.formatting.map fun known => if isEntryOf formatted.index known then entry else known
    | some first =>
      (insertEntryAfter first entry created.formatting).eraseP (isEntryOf formatted.index)
  let opened := created.opened.filter fun element => element.index != formatted.index
  { created with
    tree, formatting, opened := insertOpenAbove block.index ⟨index, name⟩ opened }

/-- The open elements above one of them, the latest first, with those from it on. -/
def splitOpened (index : Nat) (opened : List OpenElement) : List OpenElement × List OpenElement :=
  opened.span fun element => element.index != index

/-- Closes formatting elements of a name, splitting one around each block that is open above it,
up to a number of times. -/
def closeFormattingWithin (name : String) : Nat → Builder → Builder
  | 0, builder => builder
  | times + 1, builder =>
    match activeNamed? name builder.formatting with
    | none => builder.closeAny name
    | some (index, tag) =>
      match splitOpened index builder.opened with
      | (_, []) => builder.forgetEntry index
      | (above, formatted :: below) =>
        if finds (fun element => element.index == index) ElementName.endsScope builder.opened then
          let outward := above.reverse
          match outward.find? fun element => ElementName.isSpecial element.name with
          | none => { builder with opened := below }.forgetEntry index
          | some block =>
            let between := (outward.takeWhile (· != block)).reverse
            closeFormattingWithin name times
              (builder.splitFormatting formatted tag block between
                (below.headD ⟨0, .ofPage "html"⟩))
        else builder

def closeFormatting (builder : Builder) (name : String) : Builder :=
  match builder.opened with
  | current :: _ =>
    if ElementName.isNamed name current.name ∧
        !builder.formatting.any (isEntryOf current.index) then
      builder.pop
    else closeFormattingWithin name 8 builder
  | [] => builder

/-- Closes an open link before another one. -/
def closeLink (builder : Builder) : Builder :=
  match activeNamed? "a" builder.formatting with
  | none => builder
  | some (index, _) => ((builder.closeFormatting "a").forgetEntry index).removeOpen index

end ScriptLint.Markup.Builder
