import ScriptLint.Markup.Construction.Head

/-!
# Inside the body

The rules for the content of a page: paragraphs and headings end where blocks begin, items end
where items begin, formatting is taken up again, and end tags close what they find in scope.
-/

namespace ScriptLint.Markup.Builder

def isBlock (name : String) : Bool :=
  ["address", "article", "aside", "blockquote", "center", "details", "dialog", "dir", "div", "dl",
    "fieldset", "figcaption", "figure", "footer", "header", "hgroup", "main", "menu", "nav", "ol",
    "p", "section", "summary", "ul"].contains name

def isClosedBlock (name : String) : Bool :=
  (isBlock name && name != "p") || ["button", "listing", "pre"].contains name

def isHeadingName (name : String) : Bool :=
  ElementName.isHeading (.ofPage name)

def isPlainFormatting (name : String) : Bool :=
  ["b", "big", "code", "em", "font", "i", "s", "small", "strike", "strong", "tt",
    "u"].contains name

def isFormatting (name : String) : Bool :=
  isPlainFormatting name || name == "a" || name == "nobr"

/-- The elements around which formatting is not taken up. -/
def isEnclosure (name : String) : Bool :=
  ["applet", "marquee", "object"].contains name

/-- The elements in running text that hold nothing. -/
def isVoid (name : String) : Bool :=
  ["area", "br", "embed", "img", "keygen", "wbr", "input"].contains name

/-- The elements beside the running text that hold nothing. -/
def isSourceVoid (name : String) : Bool :=
  ["param", "source", "track"].contains name

/-- The parts of tables and pages whose start tags count for nothing in a body. -/
def isMisplaced (name : String) : Bool :=
  ["caption", "col", "colgroup", "frame", "head", "tbody", "td", "tfoot", "th", "thead",
    "tr"].contains name

/-- Whether a tag is that of a control that is not shown. -/
def isHiddenControl (tag : Tag) : Bool :=
  (tag.value? "type").any fun value => value.map Char.toLower == "hidden"

def openBlock (builder : Builder) (tag : Tag) : Builder :=
  builder.closeParagraph.openTag tag

/-- The name of the item that a new item of one of the given names ends, if one is open. -/
def openItem? (names : List String) : List OpenElement → Option String
  | [] => none
  | element :: rest =>
    if ElementName.isAmong names element.name then some element.name.name
    else if ElementName.endsItemSearch element.name then none
    else openItem? names rest

def openItem (builder : Builder) (names : List String) (tag : Tag) : Builder :=
  let closed :=
    match openItem? names builder.opened with
    | some name => builder.closeNamed name
    | none => builder
  (closed.openBlock tag).withoutFrames

/-- Processes the start tag of a form, which may not stand in another form. -/
def openForm (builder : Builder) (tag : Tag) : Builder :=
  let inTemplate := builder.hasOpen "template"
  if builder.form.isSome ∧ !inTemplate then builder
  else
    let (element, opened) :=
      builder.closeParagraph.openElement (.ofPage tag.name) tag.attributes
    if inTemplate then opened else { opened with form := some element.index }

def closeForm (builder : Builder) : Builder :=
  if builder.hasOpen "template" then
    if builder.hasNamedInScope ElementName.endsScope "form" then
      builder.closeSilently.popUntilNamed "form"
    else builder
  else
    let freed := { builder with form := none }
    match builder.form with
    | none => builder
    | some index =>
      if finds (fun element => element.index == index) ElementName.endsScope builder.opened then
        freed.closeSilently.removeOpen index
      else freed

/-- Processes the start tag of a button, which may not stand in another button. -/
def openButton (builder : Builder) (tag : Tag) : Builder :=
  let closed :=
    if builder.hasNamedInScope ElementName.endsScope "button" then
      builder.closeSilently.popUntilNamed "button"
    else builder
  (closed.takeUpFormatting.openTag tag).withoutFrames

def openFormattingTag (builder : Builder) (tag : Tag) : Builder :=
  match tag.name with
  | "a" => builder.closeLink.takeUpFormatting.openFormatting tag
  | "nobr" =>
    let ready := builder.takeUpFormatting
    if ready.hasNamedInScope ElementName.endsScope "nobr" then
      (ready.closeFormatting "nobr").takeUpFormatting.openFormatting tag
    else ready.openFormatting tag
  | _ => builder.takeUpFormatting.openFormatting tag

/-- Processes the start tag of an element in running text that holds nothing. -/
def addInline (builder : Builder) (tag : Tag) : Builder :=
  let added := builder.takeUpFormatting.addVoid tag
  if tag.name = "input" ∧ isHiddenControl tag then added else added.withoutFrames

/-- Processes the start tag of a heading, which may not stand in another heading. -/
def openHeading (builder : Builder) (tag : Tag) : Builder :=
  let ready := builder.closeParagraph
  (if ready.currentIs ElementName.isHeading then ready.pop else ready).openTag tag

def openTable (builder : Builder) (tag : Tag) : Builder :=
  let ready := if builder.oldLayout then builder else builder.closeParagraph
  (ready.openTag tag).withoutFrames.withMode .inTable

def openSelect (builder : Builder) (tag : Tag) : Builder :=
  let opened := (builder.takeUpFormatting.openTag tag).withoutFrames
  let inside :=
    [Mode.inTable, .inCaption, .inTableBody, .inRow, .inCell].contains opened.mode
  opened.withMode (if inside then .inSelectInTable else .inSelect)

def openOption (builder : Builder) (tag : Tag) : Builder :=
  let ready := if builder.currentIs (ElementName.isNamed "option") then builder.pop else builder
  ready.takeUpFormatting.openTag tag

def openAnnotation (builder : Builder) (tag : Tag) : Builder :=
  if builder.hasNamedInScope ElementName.endsScope "ruby" then
    if tag.name = "rb" ∨ tag.name = "rtc" then builder.closeSilently.openTag tag
    else (builder.closeSilentlyExcept "rtc").openTag tag
  else builder.openTag tag

def openForeign (builder : Builder) (vocabulary : Vocabulary) (tag : Tag) : Builder :=
  let name : ElementName := ⟨vocabulary, tag.name⟩
  if tag.selfClosing then (builder.addElement name tag.attributes).2
  else (builder.openElement name tag.attributes).2

/-- Processes the start tag of a body inside a body: its attributes are added to the body. -/
def mergeBody (builder : Builder) (tag : Tag) : Builder :=
  match builder.body? with
  | none => builder
  | some body =>
    if builder.hasOpen "template" then builder
    else
      { builder with tree := builder.tree.addAttributes body tag.attributes }.withoutFrames

/-- Processes the start tag of frames, which may take the place of a body without content. -/
def openFrames (builder : Builder) (tag : Tag) : Builder :=
  match builder.body? with
  | none => builder
  | some body =>
    if builder.framesAllowed then
      let rootOnly := builder.opened.drop (builder.opened.length - 1)
      ({ builder with tree := builder.tree.detach body, opened := rootOnly }.openTag tag).withMode
        .inFrameset
    else builder

/-- Processes the start tag of a preformatted text, whose first line feed does not count. -/
def openPreformatted (builder : Builder) (tag : Tag) : Builder :=
  { (builder.openBlock tag).withoutFrames with dropsLineFeed := true }

/-- Processes the start tag of an element whose text is raw, if it is one. -/
def openRawInBody? (builder : Builder) (tag : Tag) : Option Step :=
  match tag.name with
  | "textarea" =>
    some ({ builder.withoutFrames with dropsLineFeed := true }.openRaw tag .references)
  | "xmp" => some (builder.closeParagraph.takeUpFormatting.withoutFrames.openRaw tag .verbatim)
  | "iframe" => some (builder.withoutFrames.openRaw tag .verbatim)
  | "noembed" => some (builder.openRaw tag .verbatim)
  | "noscript" => some (builder.openRaw tag .verbatim)
  | "plaintext" => some (.plain, builder.openBlock tag)
  | _ => none

/-- Processes a start tag of which one element is known by name. -/
def openKnown? (builder : Builder) (tag : Tag) : Option Builder :=
  match tag.name with
  | "body" => some (builder.mergeBody tag)
  | "frameset" => some (builder.openFrames tag)
  | "pre" => some (builder.openPreformatted tag)
  | "listing" => some (builder.openPreformatted tag)
  | "form" => some (builder.openForm tag)
  | "li" => some (builder.openItem ["li"] tag)
  | "dd" => some (builder.openItem ["dd", "dt"] tag)
  | "dt" => some (builder.openItem ["dd", "dt"] tag)
  | "button" => some (builder.openButton tag)
  | "table" => some (builder.openTable tag)
  | "hr" => some (builder.closeParagraph.addVoid tag).withoutFrames
  | "image" => some (builder.addInline { tag with name := "img" })
  | "select" => some (builder.openSelect tag)
  | "optgroup" => some (builder.openOption tag)
  | "option" => some (builder.openOption tag)
  | "rb" => some (builder.openAnnotation tag)
  | "rtc" => some (builder.openAnnotation tag)
  | "rp" => some (builder.openAnnotation tag)
  | "rt" => some (builder.openAnnotation tag)
  | "math" => some (builder.openForeign .formula tag)
  | "svg" => some (builder.openForeign .drawing tag)
  | _ => none

/-- Processes the start tag of an element that is known by its class only. -/
def openOther (builder : Builder) (tag : Tag) : Builder :=
  if isBlock tag.name then builder.openBlock tag
  else if isHeadingName tag.name then builder.openHeading tag
  else if isFormatting tag.name then builder.openFormattingTag tag
  else if isEnclosure tag.name then
    (builder.takeUpFormatting.openTag tag).markFormatting.withoutFrames
  else if isVoid tag.name then builder.addInline tag
  else if isSourceVoid tag.name then builder.addVoid tag
  else if isMisplaced tag.name then builder
  else builder.takeUpFormatting.openTag tag

def openInBody (builder : Builder) (tag : Tag) : Step :=
  if tag.name = "html" then builder.mergeRoot tag
  else if belongsInHead tag.name then builder.openInHead tag
  else
    match builder.openRawInBody? tag with
    | some step => step
    | none =>
      match builder.openKnown? tag with
      | some opened => opened.done
      | none => (builder.openOther tag).done

/-- Processes the end tag of a paragraph; one that closes nothing stands for an empty one. -/
def endParagraph (builder : Builder) : Builder :=
  if builder.hasNamedInScope ElementName.endsButtonScope "p" then builder.closeNamed "p"
  else (builder.openNamed "p").closeNamed "p"

def endBlock (builder : Builder) (name : String) : Builder :=
  if builder.hasNamedInScope ElementName.endsScope name then
    builder.closeSilently.popUntilNamed name
  else builder

def endItem (builder : Builder) (stop : NameClass) (name : String) : Builder :=
  if builder.hasNamedInScope stop name then builder.closeNamed name else builder

/-- Closes a heading that is open in scope, whatever its level. -/
def endHeading (builder : Builder) : Builder :=
  if builder.hasInScope ElementName.endsScope ElementName.isHeading then
    builder.closeSilently.popUntil ElementName.isHeading
  else builder

def endEnclosure (builder : Builder) (name : String) : Builder :=
  if builder.hasNamedInScope ElementName.endsScope name then
    (builder.closeSilently.popUntilNamed name).forgetToMarker
  else builder

def endInBody (builder : Builder) (name : String) : Step :=
  match name with
  | "template" => builder.closeTemplate
  | "body" =>
    if builder.hasNamedInScope ElementName.endsScope "body" then (builder.withMode .afterBody).done
    else builder.done
  | "html" =>
    if builder.hasNamedInScope ElementName.endsScope "body" then builder.againIn .afterBody
    else builder.done
  | "form" => builder.closeForm.done
  | "p" => builder.endParagraph.done
  | "li" => (builder.endItem ElementName.endsListScope name).done
  | "dd" => (builder.endItem ElementName.endsScope name).done
  | "dt" => (builder.endItem ElementName.endsScope name).done
  | "br" => (builder.addInline ⟨"br", [], false⟩).done
  | _ =>
    if isClosedBlock name then (builder.endBlock name).done
    else if isHeadingName name then builder.endHeading.done
    else if isFormatting name then (builder.closeFormatting name).done
    else if isEnclosure name then (builder.endEnclosure name).done
    else (builder.closeAny name).done

/-- Processes the end of the text inside a template: the template is closed. -/
def endInTemplate (builder : Builder) : Step :=
  if builder.hasOpen "template" then
    let closed := (builder.popUntilNamed "template").forgetToMarker
    (.again, { closed with templateModes := closed.templateModes.tail }.resetMode)
  else builder.done

def inBody (builder : Builder) : Token → Step
  | .null => builder.done
  | .blanks chars => (builder.takeUpFormatting.appendText chars).done
  | .chars chars => (builder.takeUpFormatting.withoutFrames.appendText chars).done
  | .comment => builder.done
  | .doctype _ => builder.done
  | .startTag tag => builder.openInBody tag
  | .endTag name => builder.endInBody name
  | .endOfText => if builder.templateModes.isEmpty then builder.done else builder.endInTemplate

end ScriptLint.Markup.Builder
