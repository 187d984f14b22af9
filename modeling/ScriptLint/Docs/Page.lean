import ScriptLint.Docs.Error
import ScriptLint.Markup.Parser
import ScriptLint.Markup.Selector.Reading

/-!
# Documentation pages

A page is parsed once and then asked for the elements that a selector picks, or for the text inside
them.  Any markup is a page.
-/

namespace ScriptLint

open Markup

/-- A parsed documentation page. -/
structure DocPage where
  tree : Tree

namespace DocPage

def ofMarkup (markup : String) : DocPage :=
  ⟨Tree.ofMarkup markup⟩

def selector (text : String) : Except DocsError Selector :=
  match Selector.ofText? text with
  | some selector => .ok selector
  | none => .error (.badSelector text "not a selector")

def count (page : DocPage) (picked : String) : Except DocsError Nat :=
  (selector picked).map fun condition => (page.tree.select condition).length

/-- The texts of the elements inside an element that a selector picks, a space between two, with
every run of blanks collapsed. -/
def textWithin (page : DocPage) (inner : Selector) (element : Nat) : String :=
  String.ofList (Text.collapse
    (List.intercalate [' '] ((page.tree.selectWithin inner element).map page.tree.textOf)))

/-- For each element that one selector picks, the text of what another one picks inside it. -/
def textsWithin (page : DocPage) (outer inner : String) : Except DocsError (List String) :=
  match selector outer, selector inner with
  | .ok outerCondition, .ok innerCondition =>
    .ok ((page.tree.select outerCondition).map (page.textWithin innerCondition))
  | .error failure, _ => .error failure
  | _, .error failure => .error failure

end DocPage

end ScriptLint
