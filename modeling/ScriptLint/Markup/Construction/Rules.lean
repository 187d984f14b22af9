import ScriptLint.Markup.Construction.Foreign
import ScriptLint.Markup.Construction.Table

/-!
# The rules of construction

Every token is processed by the rules of the present mode, or by those for foreign elements when
one of these is open.  A step may ask for the token to be processed again; the open elements and
templates bound how often.
-/

namespace ScriptLint.Markup.Builder

def inText (builder : Builder) : Token → Step
  | .blanks chars => (builder.appendText chars).done
  | .chars chars => (builder.appendText chars).done
  | .endOfText => builder.pop.againIn builder.returnMode
  | .endTag _ => (builder.pop.withMode builder.returnMode).done
  | _ => builder.done

/-- Closes the selection, if one is open in scope. -/
def closeSelect? (builder : Builder) : Option Builder :=
  if builder.hasNamedInScope ElementName.endsSelectScope "select" then
    some (builder.popUntilNamed "select").resetMode
  else none

def popNamed (builder : Builder) (name : String) : Builder :=
  if builder.currentIs (ElementName.isNamed name) then builder.pop else builder

/-- Processes the end tag of a group of options, which also ends an option. -/
def endOptionGroup (builder : Builder) : Builder :=
  match builder.opened with
  | option :: group :: _ =>
    if ElementName.isNamed "option" option.name ∧ ElementName.isNamed "optgroup" group.name then
      builder.pop.pop
    else builder.popNamed "optgroup"
  | _ => builder.popNamed "optgroup"

def inSelect (builder : Builder) (token : Token) : Step :=
  match token with
  | .blanks chars => (builder.appendText chars).done
  | .chars chars => (builder.appendText chars).done
  | .startTag tag =>
    match tag.name with
    | "html" => builder.mergeRoot tag
    | "option" => ((builder.popNamed "option").openTag tag).done
    | "optgroup" => (((builder.popNamed "option").popNamed "optgroup").openTag tag).done
    | "select" => (builder.closeSelect?.getD builder).done
    | "script" => builder.openInHead tag
    | "template" => builder.openTemplate tag
    | name =>
      if ["input", "keygen", "textarea"].contains name then
        match builder.closeSelect? with
        | some closed => (.again, closed)
        | none => builder.done
      else builder.done
  | .endTag name =>
    match name with
    | "optgroup" => builder.endOptionGroup.done
    | "option" => (builder.popNamed "option").done
    | "select" => (builder.closeSelect?.getD builder).done
    | "template" => builder.closeTemplate
    | _ => builder.done
  | .endOfText => builder.inBody token
  | _ => builder.done

def endsTableSelect (name : String) : Bool :=
  ["caption", "table", "tbody", "tfoot", "thead", "tr", "td", "th"].contains name

def inSelectInTable (builder : Builder) (token : Token) : Step :=
  match token with
  | .startTag tag =>
    if endsTableSelect tag.name then (.again, (builder.popUntilNamed "select").resetMode)
    else builder.inSelect token
  | .endTag name =>
    if endsTableSelect name then
      if builder.hasNamedInScope ElementName.endsTableScope name then
        (.again, (builder.popUntilNamed "select").resetMode)
      else builder.done
    else builder.inSelect token
  | _ => builder.inSelect token

/-- Processes a token again in another mode, which becomes that of the template. -/
def templateAgainIn (builder : Builder) (mode : Mode) : Step :=
  { builder with templateModes := mode :: builder.templateModes.tail }.againIn mode

def templateModeFor (name : String) : Mode :=
  match name with
  | "col" => .inColumnGroup
  | "tr" => .inTableBody
  | "td" => .inRow
  | "th" => .inRow
  | _ => if isTableSection name then .inTable else .inBody

def inTemplate (builder : Builder) (token : Token) : Step :=
  match token with
  | .startTag tag =>
    if belongsInHead tag.name then builder.openInHead tag
    else builder.templateAgainIn (templateModeFor tag.name)
  | .endTag name => if name = "template" then builder.closeTemplate else builder.done
  | .endOfText => builder.endInTemplate
  | _ => builder.inBody token

def inAfterBody (builder : Builder) (token : Token) : Step :=
  match token with
  | .blanks _ => builder.inBody token
  | .startTag tag => if tag.name = "html" then builder.mergeRoot tag else builder.againIn .inBody
  | .endTag name =>
    if name = "html" then (builder.withMode .afterAfterBody).done else builder.againIn .inBody
  | .chars _ => builder.againIn .inBody
  | .null => builder.againIn .inBody
  | _ => builder.done

def inAfterAfterBody (builder : Builder) (token : Token) : Step :=
  match token with
  | .blanks _ => builder.inBody token
  | .startTag tag => if tag.name = "html" then builder.mergeRoot tag else builder.againIn .inBody
  | .endTag _ => builder.againIn .inBody
  | .chars _ => builder.againIn .inBody
  | .null => builder.againIn .inBody
  | _ => builder.done

/-- Closes frames, unless they are the root. -/
def endFrames (builder : Builder) : Builder :=
  if builder.opened.length = 1 then builder
  else
    let closed := builder.pop
    if closed.currentIs (ElementName.isNamed "frameset") then closed
    else closed.withMode .afterFrameset

def inFrameset (builder : Builder) : Token → Step
  | .blanks chars => (builder.appendText chars).done
  | .startTag tag =>
    match tag.name with
    | "html" => builder.mergeRoot tag
    | "frameset" => (builder.openTag tag).done
    | "frame" => (builder.addVoid tag).done
    | "noframes" => builder.openInHead tag
    | _ => builder.done
  | .endTag name => if name = "frameset" then builder.endFrames.done else builder.done
  | _ => builder.done

def inAfterFrameset (builder : Builder) : Token → Step
  | .blanks chars => (builder.appendText chars).done
  | .startTag tag =>
    match tag.name with
    | "html" => builder.mergeRoot tag
    | "noframes" => builder.openInHead tag
    | _ => builder.done
  | .endTag name =>
    if name = "html" then (builder.withMode .afterAfterFrameset).done else builder.done
  | _ => builder.done

def inAfterAfterFrameset (builder : Builder) (token : Token) : Step :=
  match token with
  | .blanks _ => builder.inBody token
  | .startTag tag =>
    match tag.name with
    | "html" => builder.mergeRoot tag
    | "noframes" => builder.openInHead tag
    | _ => builder.done
  | _ => builder.done

def byMode (builder : Builder) (token : Token) : Step :=
  match builder.mode with
  | .initial => builder.inInitial token
  | .beforeHtml => builder.inBeforeHtml token
  | .beforeHead => builder.inBeforeHead token
  | .inHead => builder.inHead token
  | .afterHead => builder.inAfterHead token
  | .inBody => builder.inBody token
  | .inText => builder.inText token
  | .inTable => builder.inTable token
  | .inTableText => builder.inTableText token
  | .inCaption => builder.inCaption token
  | .inColumnGroup => builder.inColumnGroup token
  | .inTableBody => builder.inTableBody token
  | .inRow => builder.inRow token
  | .inCell => builder.inCell token
  | .inSelect => builder.inSelect token
  | .inSelectInTable => builder.inSelectInTable token
  | .inTemplate => builder.inTemplate token
  | .afterBody => builder.inAfterBody token
  | .inFrameset => builder.inFrameset token
  | .afterFrameset => builder.inAfterFrameset token
  | .afterAfterBody => builder.inAfterAfterBody token
  | .afterAfterFrameset => builder.inAfterAfterFrameset token

/-- Processes a token once. -/
def step (builder : Builder) (token : Token) : Step :=
  if builder.takesForeign token then builder.inForeign byMode token else builder.byMode token

/-- Processes a token until it is used up, in a number of steps. -/
def processWithin (token : Token) : Nat → Builder → Step
  | 0, builder => builder.done
  | steps + 1, builder =>
    match builder.step token with
    | (.again, later) => processWithin token steps later
    | outcome => outcome

def stepLimit (builder : Builder) : Nat :=
  64 + 8 * (builder.opened.length + builder.templateModes.length)

def withoutLineFeed? : Token → Option Token
  | .blanks ('\n' :: rest) => if rest.isEmpty then none else some (.blanks rest)
  | token => some token

/-- Processes a token.  A document type counts only at the beginning of a page. -/
def process (builder : Builder) (token : Token) : Step :=
  let ready := { builder with dropsLineFeed := false }
  let left := if builder.dropsLineFeed then withoutLineFeed? token else some token
  match left with
  | none => ready.done
  | some (.doctype declaration) =>
    if ready.mode = .initial then ready.inInitial (.doctype declaration) else ready.done
  | some other => processWithin other ready.stepLimit ready

end ScriptLint.Markup.Builder
