import ScriptLint.Markup.Construction.Body

/-!
# Inside drawings and formulas

Inside a foreign element tags are taken as they are, except that a start tag that clearly belongs
to the page closes the foreign elements first.  Some foreign elements hold parts of a page, where
the rules of the page apply.
-/

namespace ScriptLint.Markup.Builder

/-- The elements that never stand in a foreign element. -/
def breaksOut (tag : Tag) : Bool :=
  ["b", "big", "blockquote", "body", "br", "center", "code", "dd", "div", "dl", "dt", "em",
    "embed", "h1", "h2", "h3", "h4", "h5", "h6", "head", "hr", "i", "img", "li", "listing",
    "menu", "meta", "nobr", "ol", "p", "pre", "ruby", "s", "small", "span", "strong", "strike",
    "sub", "sup", "table", "tt", "u", "ul", "var"].contains tag.name ||
    (tag.name == "font" &&
      tag.attributes.any fun entry => ["color", "face", "size"].contains entry.name)

def takesForeign (builder : Builder) (token : Token) : Bool :=
  match builder.opened.head? with
  | none => false
  | some current =>
    if current.name.vocabulary = .page then false
    else
      match token with
      | .endOfText => false
      | .startTag tag =>
        if current.name.holdsFormulaText then ["mglyph", "malignmark"].contains tag.name
        else if current.name = ⟨.formula, "annotation-xml"⟩ then tag.name != "svg"
        else !current.name.holdsPageParts
      | .null => !(current.name.holdsFormulaText || current.name.holdsPageParts)
      | .blanks _ => !(current.name.holdsFormulaText || current.name.holdsPageParts)
      | .chars _ => !(current.name.holdsFormulaText || current.name.holdsPageParts)
      | _ => true

def openInForeign (builder : Builder) (tag : Tag) : Step :=
  if breaksOut tag then
    (.again, builder.pop.popUntilCurrent fun name =>
      name.vocabulary == .page || name.holdsFormulaText || name.holdsPageParts)
  else
    let vocabulary :=
      ((builder.opened.head?.map fun element => element.name.vocabulary).getD .page)
    (builder.openForeign vocabulary
      { tag with name := ElementName.properName vocabulary tag.name }).done

/-- How an end tag inside a foreign element ends. -/
inductive ForeignEnd where
  /-- It closes nothing. -/
  | nothing
  /-- It closes an element; the given ones stay open. -/
  | closes (rest : List OpenElement)
  | page

/-- Finds the element that an end tag closes, going outward.  The root is never closed. -/
def foreignEnd (name : String) : List OpenElement → ForeignEnd
  | [] => .nothing
  | [_] => .nothing
  | element :: rest =>
    if element.name.vocabulary = .page then .page
    else if element.name.name.map Char.toLower = name then .closes rest
    else foreignEnd name rest

/-- The rules inside foreign elements, given those of the page for an end tag. -/
def inForeign (builder : Builder) (pageRules : Builder → Token → Step) (token : Token) : Step :=
  match token with
  | .null => (builder.appendText [replacementChar]).done
  | .blanks chars => (builder.appendText chars).done
  | .chars chars => (builder.withoutFrames.appendText chars).done
  | .startTag tag => builder.openInForeign tag
  | .endTag name =>
    match foreignEnd name builder.opened with
    | .nothing => builder.done
    | .closes rest => { builder with opened := rest }.done
    | .page => pageRules builder token
  | _ => builder.done

end ScriptLint.Markup.Builder
