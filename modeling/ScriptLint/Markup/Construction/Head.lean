import ScriptLint.Markup.Construction.Formatting

/-!
# Before and inside the head

The root, the head and the body of a page are made even where no tag asks for them.  What belongs
into the head is processed by the same rules wherever it stands, and so are templates.
-/

namespace ScriptLint.Markup.Builder

/-- The end tags that make the missing beginning of a page, as all other tokens do. -/
def impliesBeginning (name : String) : Bool :=
  ["head", "body", "html", "br"].contains name

/-- Processes a start tag of the root: its attributes are added to the root, but not from inside a
template. -/
def mergeRoot (builder : Builder) (tag : Tag) : Step :=
  if builder.hasOpen "template" then builder.done
  else
    match builder.opened.getLast? with
    | none => builder.done
    | some root =>
      { builder with tree := builder.tree.addAttributes root.index tag.attributes }.done

def closeTemplate (builder : Builder) : Step :=
  if builder.hasOpen "template" then
    let closed :=
      ((builder.popWhile ElementName.closesSilentlyInTemplates).popUntilNamed
        "template").forgetToMarker
    { closed with templateModes := closed.templateModes.tail }.resetMode.done
  else builder.done

def openTemplate (builder : Builder) (tag : Tag) : Step :=
  let marked := (builder.openTag tag).markFormatting.withoutFrames
  { marked with mode := .inTemplate, templateModes := .inTemplate :: marked.templateModes }.done

/-- The elements of a head that hold nothing. -/
def isHeadVoid (name : String) : Bool :=
  ["base", "basefont", "bgsound", "link", "meta"].contains name

def belongsInHead (name : String) : Bool :=
  isHeadVoid name || ["noframes", "script", "style", "template", "title"].contains name

def openInHead (builder : Builder) (tag : Tag) : Step :=
  match tag.name with
  | "title" => builder.openRaw tag .references
  | "script" => builder.openRaw tag .script
  | "template" => builder.openTemplate tag
  | name => if isHeadVoid name then (builder.addVoid tag).done else builder.openRaw tag .verbatim

def inInitial (builder : Builder) : Token → Step
  | .blanks _ => builder.done
  | .comment => builder.done
  | .doctype declaration =>
    { builder with oldLayout := declaration.isOld, mode := .beforeHtml }.done
  | _ => { builder with oldLayout := true }.againIn .beforeHtml

def inBeforeHtml (builder : Builder) (token : Token) : Step :=
  let make := (builder.openRoot []).againIn .beforeHead
  match token with
  | .blanks _ => builder.done
  | .comment => builder.done
  | .doctype _ => builder.done
  | .startTag tag =>
    if tag.name = "html" then ((builder.openRoot tag.attributes).withMode .beforeHead).done
    else make
  | .endTag name => if impliesBeginning name then make else builder.done
  | _ => make

def openHead (builder : Builder) (attributes : List Attribute) : Builder :=
  let (element, opened) := builder.openElement (.ofPage "head") attributes
  { opened with head := some element, mode := .inHead }

def inBeforeHead (builder : Builder) (token : Token) : Step :=
  let make := (builder.openHead []).againIn .inHead
  match token with
  | .blanks _ => builder.done
  | .comment => builder.done
  | .doctype _ => builder.done
  | .startTag tag =>
    match tag.name with
    | "html" => builder.mergeRoot tag
    | "head" => (builder.openHead tag.attributes).done
    | _ => make
  | .endTag name => if impliesBeginning name then make else builder.done
  | _ => make

def inHead (builder : Builder) (token : Token) : Step :=
  let leave := builder.pop.againIn .afterHead
  match token with
  | .blanks chars => (builder.appendText chars).done
  | .comment => builder.done
  | .doctype _ => builder.done
  | .startTag tag =>
    if tag.name = "html" then builder.mergeRoot tag
    else if tag.name = "head" then builder.done
    else if tag.name = "noscript" ∨ belongsInHead tag.name then builder.openInHead tag
    else leave
  | .endTag name =>
    match name with
    | "head" => (builder.pop.withMode .afterHead).done
    | "body" => leave
    | "html" => leave
    | "br" => leave
    | "template" => builder.closeTemplate
    | _ => builder.done
  | _ => leave

def inAfterHead (builder : Builder) (token : Token) : Step :=
  let make := (builder.openNamed "body").againIn .inBody
  match token with
  | .blanks chars => (builder.appendText chars).done
  | .comment => builder.done
  | .doctype _ => builder.done
  | .startTag tag =>
    match tag.name with
    | "html" => builder.mergeRoot tag
    | "head" => builder.done
    | "body" => ((builder.openTag tag).withoutFrames.withMode .inBody).done
    | "frameset" => ((builder.openTag tag).withMode .inFrameset).done
    | name =>
      if belongsInHead name then
        match builder.head with
        | none => builder.openInHead tag
        | some head =>
          let (next, opened) := (builder.push head).openInHead tag
          (next, opened.removeOpen head.index)
      else make
  | .endTag name =>
    match name with
    | "template" => builder.closeTemplate
    | "body" => make
    | "html" => make
    | "br" => make
    | _ => builder.done
  | _ => make

end ScriptLint.Markup.Builder
