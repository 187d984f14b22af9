import ScriptLint.Docs.Page
import ScriptLint.Docs.Signature

/-!
# Layouts of documentation pages

A layout says where a page shows its signatures.  Older pages list them in a table of declarations,
newer ones head every description with a prototype.  A page is read by all layouts, and what any of
them finds is documented.
-/

namespace ScriptLint

/-- A way of finding signatures in a page. -/
structure Layout where
  name : String
  fragments : DocPage → Except DocsError (List String)

namespace Layout

def tableRows : Layout where
  name := "table rows"
  fragments page :=
    page.textsWithin "table.memberdecls tr.memitem" "td.memItemLeft, td.memItemRight"

/-- The prototypes of the descriptions; empty ones are passed over. -/
def prototypes : Layout where
  name := "div.memitem"
  fragments page :=
    (page.textsWithin "div.memitem" "div.memproto").map fun texts => texts.filter (· != "")

def known : List Layout :=
  [tableRows, prototypes]

def extract (layout : Layout) (page : DocPage) : Except DocsError MethodTable :=
  (layout.fragments page).map Signature.table

/-- The methods that any of the layouts finds in a page.  A layout that fails finds nothing. -/
def extractAll (layouts : List Layout) (page : DocPage) : MethodTable :=
  layouts.foldl (fun table layout =>
    match layout.extract page with
    | .ok found => table.merge found
    | .error _ => table) .empty

end Layout

def methodsOfMarkup (markup : String) : MethodTable :=
  Layout.extractAll Layout.known (DocPage.ofMarkup markup)

end ScriptLint
