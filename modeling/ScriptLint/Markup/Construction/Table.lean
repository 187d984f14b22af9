import ScriptLint.Markup.Construction.Body

/-!
# Inside tables

A table holds captions, columns, groups of rows, rows and cells; missing groups and rows are made.
Anything else is processed as in the body but goes before the table.  Text is gathered first, since
blanks alone may stay.
-/

namespace ScriptLint.Markup.Builder

/-- Processes a token as in the body, while what may not stand in the table goes before it. -/
def fosterInBody (builder : Builder) (token : Token) : Step :=
  let (next, processed) := { builder with fostering := true }.inBody token
  (next, { processed with fostering := false })

def beginTableText (builder : Builder) (token : Token) : Step :=
  if builder.currentIs ElementName.holdsTableParts then
    { builder with returnMode := builder.mode }.againIn .inTableText
  else builder.fosterInBody token

/-- The end tags of parts of tables that may close nothing in a table as such. -/
def isTablePartEnd (name : String) : Bool :=
  ["body", "caption", "col", "colgroup", "html", "tbody", "td", "tfoot", "th", "thead",
    "tr"].contains name

def isTableSection (name : String) : Bool :=
  ["caption", "col", "colgroup", "tbody", "tfoot", "thead"].contains name

def backToTable (builder : Builder) : Builder :=
  builder.popUntilCurrent ElementName.endsTableScope

/-- Closes the table, if one is open in scope. -/
def closeTable? (builder : Builder) : Option Builder :=
  if builder.hasNamedInScope ElementName.endsTableScope "table" then
    some (builder.popUntilNamed "table").resetMode
  else none

def openInTable (builder : Builder) (tag : Tag) : Step :=
  match tag.name with
  | "caption" => ((builder.backToTable.markFormatting.openTag tag).withMode .inCaption).done
  | "colgroup" => ((builder.backToTable.openTag tag).withMode .inColumnGroup).done
  | "col" => (builder.backToTable.openNamed "colgroup").againIn .inColumnGroup
  | "tbody" => ((builder.backToTable.openTag tag).withMode .inTableBody).done
  | "tfoot" => ((builder.backToTable.openTag tag).withMode .inTableBody).done
  | "thead" => ((builder.backToTable.openTag tag).withMode .inTableBody).done
  | "td" => (builder.backToTable.openNamed "tbody").againIn .inTableBody
  | "th" => (builder.backToTable.openNamed "tbody").againIn .inTableBody
  | "tr" => (builder.backToTable.openNamed "tbody").againIn .inTableBody
  | "table" =>
    match builder.closeTable? with
    | some closed => (.again, closed)
    | none => builder.done
  | "style" => builder.openInHead tag
  | "script" => builder.openInHead tag
  | "template" => builder.openInHead tag
  | "input" =>
    if isHiddenControl tag then (builder.addVoid tag).done else builder.fosterInBody (.startTag tag)
  | "form" =>
    if builder.hasOpen "template" ∨ builder.form.isSome then builder.done
    else
      let (index, added) := builder.addElement (.ofPage "form") tag.attributes
      { added with form := some index }.done
  | _ => builder.fosterInBody (.startTag tag)

def inTable (builder : Builder) (token : Token) : Step :=
  match token with
  | .null => builder.beginTableText token
  | .blanks _ => builder.beginTableText token
  | .chars _ => builder.beginTableText token
  | .comment => builder.done
  | .doctype _ => builder.done
  | .startTag tag => builder.openInTable tag
  | .endTag name =>
    if name = "table" then (builder.closeTable?.getD builder).done
    else if isTablePartEnd name then builder.done
    else if name = "template" then builder.closeTemplate
    else builder.fosterInBody token
  | .endOfText => builder.inBody token

/-- Adds gathered text: blanks stay in the table, but go before it with other text. -/
def placeTableText (builder : Builder) (gathered : List Token) : Builder :=
  if gathered.any fun token => token matches .chars _ then
    gathered.foldl (fun placed token => (placed.fosterInBody token).2) builder
  else
    gathered.foldl (fun placed token =>
      match token with
      | .blanks chars => placed.appendText chars
      | _ => placed) builder

def inTableText (builder : Builder) (token : Token) : Step :=
  match token with
  | .null => builder.done
  | .blanks _ => { builder with tableText := token :: builder.tableText }.done
  | .chars _ => { builder with tableText := token :: builder.tableText }.done
  | _ =>
    ({ builder with tableText := [] }.placeTableText builder.tableText.reverse).againIn
      builder.returnMode

/-- Closes the caption, if one is open in scope. -/
def closeCaption? (builder : Builder) : Option Builder :=
  if builder.hasNamedInScope ElementName.endsTableScope "caption" then
    some (builder.closeSilently.popUntilNamed "caption").forgetToMarker
  else none

def leaveCaption (builder : Builder) : Step :=
  match builder.closeCaption? with
  | some closed => closed.againIn .inTable
  | none => builder.done

def inCaption (builder : Builder) (token : Token) : Step :=
  match token with
  | .startTag tag =>
    if isTableSection tag.name ∨ ["td", "th", "tr"].contains tag.name then builder.leaveCaption
    else builder.inBody token
  | .endTag name =>
    if name = "caption" then ((builder.closeCaption?.map (·.withMode .inTable)).getD builder).done
    else if name = "table" then builder.leaveCaption
    else if isTablePartEnd name then builder.done
    else builder.inBody token
  | _ => builder.inBody token

def leaveColumnGroup (builder : Builder) : Step :=
  if builder.currentIs (ElementName.isNamed "colgroup") then builder.pop.againIn .inTable
  else builder.done

def inColumnGroup (builder : Builder) (token : Token) : Step :=
  match token with
  | .blanks chars => (builder.appendText chars).done
  | .comment => builder.done
  | .doctype _ => builder.done
  | .startTag tag =>
    match tag.name with
    | "html" => builder.mergeRoot tag
    | "col" => (builder.addVoid tag).done
    | "template" => builder.openTemplate tag
    | _ => builder.leaveColumnGroup
  | .endTag name =>
    match name with
    | "colgroup" =>
      if builder.currentIs (ElementName.isNamed "colgroup") then
        (builder.pop.withMode .inTable).done
      else builder.done
    | "col" => builder.done
    | "template" => builder.closeTemplate
    | _ => builder.leaveColumnGroup
  | .endOfText => builder.inBody token
  | _ => builder.leaveColumnGroup

def backToRows (builder : Builder) : Builder :=
  builder.popUntilCurrent ElementName.holdsRows

def leaveTableBody (builder : Builder) : Step :=
  if builder.hasInScope ElementName.endsTableScope
      (ElementName.isAmong ["table", "tbody", "tfoot"]) then
    builder.backToRows.pop.againIn .inTable
  else builder.done

def inTableBody (builder : Builder) (token : Token) : Step :=
  match token with
  | .startTag tag =>
    if tag.name = "tr" then ((builder.backToRows.openTag tag).withMode .inRow).done
    else if tag.name = "th" ∨ tag.name = "td" then
      (builder.backToRows.openNamed "tr").againIn .inRow
    else if isTableSection tag.name then builder.leaveTableBody
    else builder.inTable token
  | .endTag name =>
    if ["tbody", "tfoot", "thead"].contains name then
      if builder.hasNamedInScope ElementName.endsTableScope name then
        (builder.backToRows.pop.withMode .inTable).done
      else builder.done
    else if name = "table" then builder.leaveTableBody
    else if isTablePartEnd name then builder.done
    else builder.inTable token
  | _ => builder.inTable token

/-- Closes the row, if one is open in scope. -/
def closeRow? (builder : Builder) : Option Builder :=
  if builder.hasNamedInScope ElementName.endsTableScope "tr" then
    some (builder.popUntilCurrent ElementName.holdsCells).pop
  else none

def leaveRow (builder : Builder) : Step :=
  match builder.closeRow? with
  | some closed => closed.againIn .inTableBody
  | none => builder.done

def inRow (builder : Builder) (token : Token) : Step :=
  match token with
  | .startTag tag =>
    if tag.name = "th" ∨ tag.name = "td" then
      (((builder.popUntilCurrent ElementName.holdsCells).openTag tag).withMode
        .inCell).markFormatting.done
    else if tag.name = "tr" ∨ isTableSection tag.name then builder.leaveRow
    else builder.inTable token
  | .endTag name =>
    if name = "tr" then ((builder.closeRow?.map (·.withMode .inTableBody)).getD builder).done
    else if name = "table" then builder.leaveRow
    else if ["tbody", "tfoot", "thead"].contains name then
      if builder.hasNamedInScope ElementName.endsTableScope name then builder.leaveRow
      else builder.done
    else if isTablePartEnd name then builder.done
    else builder.inTable token
  | _ => builder.inTable token

def closeCell (builder : Builder) : Builder :=
  (builder.closeSilently.popUntil ElementName.isCell).forgetToMarker

def inCell (builder : Builder) (token : Token) : Step :=
  match token with
  | .startTag tag =>
    if isTableSection tag.name ∨ ["td", "th", "tr"].contains tag.name then
      if builder.hasInScope ElementName.endsTableScope ElementName.isCell then
        builder.closeCell.againIn .inRow
      else builder.done
    else builder.inBody token
  | .endTag name =>
    if name = "td" ∨ name = "th" then
      if builder.hasNamedInScope ElementName.endsTableScope name then
        (((builder.closeSilently.popUntilNamed name).forgetToMarker).withMode .inRow).done
      else builder.done
    else if ["table", "tbody", "tfoot", "thead", "tr"].contains name then
      if builder.hasNamedInScope ElementName.endsTableScope name then
        builder.closeCell.againIn .inRow
      else builder.done
    else if isTablePartEnd name then builder.done
    else builder.inBody token
  | _ => builder.inBody token

end ScriptLint.Markup.Builder
