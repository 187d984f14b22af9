import ScriptLint.Proofs.Markup.TokenReading

/-!
# Building blocks and tables

What each token does to a page that is built as its author meant it: elements go into the open
element, end tags close what they name, and text stays where it stands.  A table gets the group of
rows that its markup leaves out.
-/

namespace ScriptLint.Markup

theorem modify_append_left {α : Type} {front : List α} {i : Nat} (inFront : i < front.length)
    (back : List α) (f : α → α) : (front ++ back).modify i f = front.modify i f ++ back := by
  induction front generalizing i with
  | nil => exact absurd inFront (Nat.not_lt_zero i)
  | cons a rest ih =>
      cases i with
      | zero => rfl
      | succ j =>
          rw [List.cons_append, List.modify_succ_cons, ih (Nat.lt_of_succ_lt_succ inFront),
            List.modify_succ_cons, List.cons_append]

theorem modify_append_right {α : Type} (front back : List α) (i : Nat) (f : α → α) :
    (front ++ back).modify (front.length + i) f = front ++ back.modify i f :=
  List.modifyTailIdx_add (List.modifyHead f) i front back

/-- A node with one more child. -/
def Node.addChild (child : Child) (node : Node) : Node :=
  { node with children := child :: node.children }

/-- The nodes with a text added to one of them. -/
def withText (nodes : List Node) (parent : Nat) (chars : List Char) : List Node :=
  nodes.modify parent (Node.addChild (.text chars))

/-- The nodes with an element added to one of them. -/
def withElement (nodes : List Node) (parent : Nat) (name : String)
    (attributes : List Attribute) : List Node :=
  nodes.modify parent (Node.addChild (.node nodes.length)) ++
    [⟨.element (.ofPage name) attributes, some parent, []⟩]

@[simp]
theorem length_withText (nodes : List Node) (parent : Nat) (chars : List Char) :
    (withText nodes parent chars).length = nodes.length := by
  simp [withText]

@[simp]
theorem length_withElement (nodes : List Node) (parent : Nat) (name : String)
    (attributes : List Attribute) :
    (withElement nodes parent name attributes).length = nodes.length + 1 := by
  simp [withElement]

/-! Nodes at the end of a list may be changed without regard to those before them. -/

theorem withText_append {front : List Node} {k : Nat} (size : front.length = k)
    (back : List Node) (i : Nat) (chars : List Char) :
    withText (front ++ back) (k + i) chars =
      front ++ back.modify i (Node.addChild (.text chars)) := by
  subst size
  exact modify_append_right front back i _

theorem withElement_append {front : List Node} {k : Nat} (size : front.length = k)
    (back : List Node) (i : Nat) (name : String) (attributes : List Attribute) :
    withElement (front ++ back) (k + i) name attributes =
      front ++ (back.modify i (Node.addChild (.node (k + back.length))) ++
        [⟨.element (.ofPage name) attributes, some (k + i), []⟩]) := by
  subst size
  rw [withElement, modify_append_right, List.length_append, List.append_assoc]

theorem withText_append_self {front : List Node} {k : Nat} (size : front.length = k)
    (back : List Node) (chars : List Char) :
    withText (front ++ back) k chars = front ++ back.modify 0 (Node.addChild (.text chars)) :=
  withText_append size back 0 chars

theorem withElement_append_self {front : List Node} {k : Nat} (size : front.length = k)
    (back : List Node) (name : String) (attributes : List Attribute) :
    withElement (front ++ back) k name attributes =
      front ++ (back.modify 0 (Node.addChild (.node (k + back.length))) ++
        [⟨.element (.ofPage name) attributes, some k, []⟩]) :=
  withElement_append size back 0 name attributes

namespace Tree

def ofNodes (nodes : List Node) : Tree :=
  ⟨nodes.toArray⟩

theorem append_text (nodes : List Node) (parent : Nat) (chars : List Char) :
    (ofNodes nodes).append parent (.text chars) = ofNodes (withText nodes parent chars) := by
  simp [append, free, adopt, modify, ofNodes, withText]
  rfl

/-- Adding a new element to a node. -/
theorem append_create {nodes : List Node} {parent : Nat} (inTree : parent < nodes.length)
    (name : String) (attributes : List Attribute) :
    ((ofNodes nodes).create (.element (.ofPage name) attributes)).2.append parent
        (.node nodes.length) =
      ofNodes (withElement nodes parent name attributes) := by
  have fresh : ((ofNodes nodes).create (.element (.ofPage name) attributes)).2.parent?
      nodes.length = none := by
    simp [parent?, node?, create, ofNodes]
  rw [append, free, detach, fresh]
  simp only [create, adopt, modify, ofNodes, withElement, List.push_toArray,
    List.modify_toArray, mk.injEq]
  rw [modify_append_left inTree]
  have adopted := modify_append_right (nodes.modify parent (Node.addChild (.node nodes.length)))
    [⟨.element (.ofPage name) attributes, none, []⟩] 0
    fun node => { node with parent := some parent }
  rw [List.length_modify] at adopted
  exact congrArg List.toArray adopted

end Tree

theorem IsTextOf.ne_doctype {run : List Char} {token : Token} (text : IsTextOf run token)
    (declaration : Doctype) : token ≠ .doctype declaration := by
  rcases text with rfl | rfl <;> exact nofun

namespace Builder

/-- A page that is being built, with a head and without forms, templates or frames. -/
def inMaking (mode : Mode) (formatting : List Formatting) (opened : List OpenElement)
    (nodes : List Node) : Builder where
  tree := .ofNodes nodes
  mode := mode
  returnMode := .initial
  templateModes := []
  opened := opened
  formatting := formatting
  head := some ⟨2, .ofPage "head"⟩
  form := none
  framesAllowed := false
  dropsLineFeed := false
  fostering := false
  tableText := []
  oldLayout := false

variable {mode : Mode} {formatting : List Formatting} {below : List OpenElement}
  {nodes : List Node} {i k : Nat} {name : String}

theorem processWithin_of_step {builder later : Builder} {token : Token}
    (stepped : builder.step token = (.done, later)) (steps : Nat) :
    processWithin token (steps + 1) builder = (.done, later) := by
  rw [processWithin, stepped]

theorem processWithin_of_again {builder middle : Builder} {token : Token}
    (stepped : builder.step token = (.again, middle)) (steps : Nat) :
    processWithin token (steps + 1) builder = processWithin token steps middle := by
  rw [processWithin, stepped]

theorem process_inMaking {token : Token} (useful : ∀ declaration, token ≠ .doctype declaration) :
    ∃ steps, (inMaking mode formatting below nodes).process token =
      processWithin token (steps + 2) (inMaking mode formatting below nodes) := by
  have limit : (inMaking mode formatting below nodes).stepLimit =
      62 + 8 * (below.length + 0) + 2 :=
    Nat.add_right_comm 62 2 _
  refine ⟨62 + 8 * (below.length + 0), ?_⟩
  rw [← limit]
  cases token with
  | doctype declaration => exact absurd rfl (useful declaration)
  | _ => rfl

/-- Under an open page element a token is processed by the rules of the mode. -/
theorem step_inMaking (token : Token) :
    (inMaking mode formatting (⟨i, .ofPage name⟩ :: below) nodes).step token =
      (inMaking mode formatting (⟨i, .ofPage name⟩ :: below) nodes).byMode token := by
  simp [step, takesForeign, inMaking, ElementName.ofPage]

theorem appendText_inMaking (noTemplate : name ≠ "template") (chars : List Char) :
    (inMaking mode formatting (⟨i, .ofPage name⟩ :: below) nodes).appendText chars =
      inMaking mode formatting (⟨i, .ofPage name⟩ :: below) (withText nodes i chars) := by
  simp [appendText, insertAt, place, placeIn, contentsOf, inMaking, ElementName.isNamed,
    ElementName.ofPage, noTemplate, Tree.append_text]

theorem openElement_inMaking (size : nodes.length = k) (inTree : i < k)
    (noTemplate : name ≠ "template") {inner : String} (innerNoTemplate : inner ≠ "template")
    (attributes : List Attribute) :
    ((inMaking mode formatting (⟨i, .ofPage name⟩ :: below) nodes).openElement (.ofPage inner)
        attributes).2 =
      inMaking mode formatting (⟨k, .ofPage inner⟩ :: ⟨i, .ofPage name⟩ :: below)
        (withElement nodes i inner attributes) := by
  subst size
  have grown := Tree.append_create inTree inner attributes
  simpa [openElement, addElement, createElement, push, insertAt, place, placeIn, contentsOf,
    inMaking, ElementName.isNamed, ElementName.ofPage, noTemplate, innerNoTemplate, Tree.create,
    Tree.ofNodes] using grown

theorem process_of_byMode {token : Token} {later : Builder}
    (useful : ∀ declaration, token ≠ .doctype declaration)
    (stepped : (inMaking mode formatting (⟨i, .ofPage name⟩ :: below) nodes).byMode token =
      (.done, later)) :
    (inMaking mode formatting (⟨i, .ofPage name⟩ :: below) nodes).process token =
      (.done, later) := by
  obtain ⟨steps, processed⟩ := process_inMaking useful
  rw [processed]
  exact processWithin_of_step ((step_inMaking token).trans stepped) (steps + 1)

/-- A token may be used up in two steps. -/
theorem process_of_byMode_again {token : Token} {middle later : Builder}
    (useful : ∀ declaration, token ≠ .doctype declaration)
    (first : (inMaking mode formatting (⟨i, .ofPage name⟩ :: below) nodes).byMode token =
      (.again, middle))
    (second : middle.step token = (.done, later)) :
    (inMaking mode formatting (⟨i, .ofPage name⟩ :: below) nodes).process token =
      (.done, later) := by
  obtain ⟨steps, processed⟩ := process_inMaking useful
  rw [processed, processWithin_of_again ((step_inMaking token).trans first)]
  exact processWithin_of_step second steps

theorem takeUpFormatting_inMaking {opened : List OpenElement}
    (markers : ∀ entry ∈ formatting, entry = .marker) :
    (inMaking mode formatting opened nodes).takeUpFormatting =
      inMaking mode formatting opened nodes := by
  cases formatting with
  | nil => rfl
  | cons entry rest =>
      rw [markers entry List.mem_cons_self]
      rfl

theorem inBody_text {run : List Char} {token : Token} (text : IsTextOf run token)
    (markers : ∀ entry ∈ formatting, entry = .marker) (noTemplate : name ≠ "template") :
    (inMaking mode formatting (⟨i, .ofPage name⟩ :: below) nodes).inBody token =
      (.done, inMaking mode formatting (⟨i, .ofPage name⟩ :: below) (withText nodes i run)) := by
  rw [← appendText_inMaking noTemplate]
  rcases text with rfl | rfl
  · rw [inBody, takeUpFormatting_inMaking markers, done]
  · rw [inBody, takeUpFormatting_inMaking markers, done]
    rfl

theorem process_text_inBody {run : List Char} {token : Token} (text : IsTextOf run token)
    (noTemplate : name ≠ "template") :
    (inMaking .inBody [] (⟨i, .ofPage name⟩ :: below) nodes).process token =
      (.done, inMaking .inBody [] (⟨i, .ofPage name⟩ :: below) (withText nodes i run)) :=
  process_of_byMode text.ne_doctype (inBody_text text nofun noTemplate)

theorem process_text_inCell {run : List Char} {token : Token} (text : IsTextOf run token)
    (noTemplate : name ≠ "template") :
    (inMaking .inCell [.marker] (⟨i, .ofPage name⟩ :: below) nodes).process token =
      (.done, inMaking .inCell [.marker] (⟨i, .ofPage name⟩ :: below) (withText nodes i run)) := by
  have added : inBody (inMaking .inCell [.marker] (⟨i, .ofPage name⟩ :: below) nodes) token = _ :=
    inBody_text text (fun _ => List.eq_of_mem_singleton) noTemplate
  refine process_of_byMode text.ne_doctype ?_
  rcases text with rfl | rfl <;> exact added

theorem openTag_inMaking (size : nodes.length = k) (inTree : i < k)
    (noTemplate : name ≠ "template") {tag : Tag} (tagNoTemplate : tag.name ≠ "template") :
    (inMaking mode formatting (⟨i, .ofPage name⟩ :: below) nodes).openTag tag =
      inMaking mode formatting (⟨k, .ofPage tag.name⟩ :: ⟨i, .ofPage name⟩ :: below)
        (withElement nodes i tag.name tag.attributes) :=
  openElement_inMaking size inTree noTemplate tagNoTemplate tag.attributes

theorem process_startTag_block {tag : Tag} (block : tag.name = "div" ∨ tag.name = "p")
    (noParagraph : (inMaking .inBody formatting (⟨i, .ofPage name⟩ :: below) nodes).hasNamedInScope
      ElementName.endsButtonScope "p" = false)
    (size : nodes.length = k) (inTree : i < k) (noTemplate : name ≠ "template") :
    (inMaking .inBody formatting (⟨i, .ofPage name⟩ :: below) nodes).process (.startTag tag) =
      (.done, inMaking .inBody formatting
        (⟨k, .ofPage tag.name⟩ :: ⟨i, .ofPage name⟩ :: below)
        (withElement nodes i tag.name tag.attributes)) := by
  have tagNoTemplate : tag.name ≠ "template" := by
    rcases block with named | named <;> rw [named] <;> decide
  have asBlock (builder : Builder) : builder.openInBody tag = (builder.openBlock tag).done := by
    rcases block with named | named <;>
      simp [openInBody, named, belongsInHead, isHeadVoid, openRawInBody?, openKnown?, openOther,
        isBlock]
  refine process_of_byMode (fun _ => nofun) ?_
  change openInBody _ tag = _
  rw [asBlock, openBlock, closeParagraph, noParagraph, if_neg Bool.false_ne_true,
    openTag_inMaking size inTree noTemplate tagNoTemplate]
  rfl

theorem popUntilCurrent_inMaking {wanted : NameClass} (found : wanted (.ofPage name) = true) :
    (inMaking mode formatting (⟨i, .ofPage name⟩ :: below) nodes).popUntilCurrent wanted =
      inMaking mode formatting (⟨i, .ofPage name⟩ :: below) nodes := by
  simp [popUntilCurrent, popWhile, inMaking, found]

theorem isNamed_ofPage_self (name : String) : ElementName.isNamed name (.ofPage name) = true := by
  simp [ElementName.isNamed, ElementName.ofPage]

theorem popUntilNamed_inMaking :
    (inMaking mode formatting (⟨i, .ofPage name⟩ :: below) nodes).popUntilNamed name =
      inMaking mode formatting below nodes := by
  rw [popUntilNamed, popUntil, popUntilCurrent_inMaking (isNamed_ofPage_self name)]
  rfl

theorem hasNamedInScope_inMaking (stop : NameClass) :
    (inMaking mode formatting (⟨i, .ofPage name⟩ :: below) nodes).hasNamedInScope stop name =
      true := by
  simp [hasNamedInScope, hasInScope, inMaking, finds, isNamed_ofPage_self]

theorem closeSilently_inMaking (kept : ElementName.closesSilently (.ofPage name) = false) :
    (inMaking mode formatting (⟨i, .ofPage name⟩ :: below) nodes).closeSilently =
      inMaking mode formatting (⟨i, .ofPage name⟩ :: below) nodes := by
  simp [closeSilently, popWhile, inMaking, kept]

theorem process_endTag_block :
    (inMaking .inBody formatting (⟨i, .ofPage "div"⟩ :: below) nodes).process (.endTag "div") =
      (.done, inMaking .inBody formatting below nodes) := by
  refine process_of_byMode (fun _ => nofun) ?_
  change (endBlock _ "div").done = _
  rw [endBlock, hasNamedInScope_inMaking, if_pos rfl, closeSilently_inMaking (by decide),
    popUntilNamed_inMaking]
  rfl

theorem process_endTag_paragraph :
    (inMaking .inBody formatting (⟨i, .ofPage "p"⟩ :: below) nodes).process (.endTag "p") =
      (.done, inMaking .inBody formatting below nodes) := by
  refine process_of_byMode (fun _ => nofun) ?_
  have kept : closeSilentlyExcept (inMaking .inBody formatting (⟨i, .ofPage "p"⟩ :: below) nodes)
      "p" = inMaking .inBody formatting (⟨i, .ofPage "p"⟩ :: below) nodes := by
    simp [closeSilentlyExcept, popWhile, inMaking, isNamed_ofPage_self]
  change (endParagraph _).done = _
  rw [endParagraph, hasNamedInScope_inMaking, if_pos rfl, closeNamed, kept, popUntilNamed_inMaking]
  rfl

theorem process_startTag_table {attributes : List Attribute}
    (noParagraph : (inMaking .inBody formatting (⟨i, .ofPage name⟩ :: below) nodes).hasNamedInScope
      ElementName.endsButtonScope "p" = false)
    (size : nodes.length = k) (inTree : i < k) (noTemplate : name ≠ "template") :
    (inMaking .inBody formatting (⟨i, .ofPage name⟩ :: below) nodes).process
        (.startTag ⟨"table", attributes, false⟩) =
      (.done, inMaking .inTable formatting
        (⟨k, .ofPage "table"⟩ :: ⟨i, .ofPage name⟩ :: below)
        (withElement nodes i "table" attributes)) := by
  refine process_of_byMode (fun _ => nofun) ?_
  change (((closeParagraph _).openTag _).withoutFrames.withMode .inTable).done = _
  rw [closeParagraph, noParagraph, if_neg Bool.false_ne_true,
    openTag_inMaking size inTree noTemplate (by simp)]
  rfl

/-- A row in a table goes into a group of rows that is made for it. -/
theorem process_startTag_row {attributes : List Attribute} (size : nodes.length = k)
    (inTree : i < k) :
    (inMaking .inTable formatting (⟨i, .ofPage "table"⟩ :: below) nodes).process
        (.startTag ⟨"tr", attributes, false⟩) =
      (.done, inMaking .inRow formatting
        (⟨k + 1, .ofPage "tr"⟩ :: ⟨k, .ofPage "tbody"⟩ ::
          ⟨i, .ofPage "table"⟩ :: below)
        (withElement (withElement nodes i "tbody" []) k "tr" attributes)) := by
  have larger : (withElement nodes i "tbody" []).length = k + 1 := by
    rw [length_withElement, size]
  have first : inTable (inMaking .inTable formatting (⟨i, .ofPage "table"⟩ :: below) nodes)
      (.startTag ⟨"tr", attributes, false⟩) =
        (.again, inMaking .inTableBody formatting
          (⟨k, .ofPage "tbody"⟩ :: ⟨i, .ofPage "table"⟩ :: below)
          (withElement nodes i "tbody" [])) := by
    change ((backToTable _).openNamed "tbody").againIn .inTableBody = _
    rw [backToTable, popUntilCurrent_inMaking (by decide), openNamed,
      openElement_inMaking size inTree (by decide) (by decide)]
    rfl
  refine process_of_byMode_again (fun _ => nofun) first ?_
  rw [step_inMaking]
  change (((backToRows _).openTag _).withMode .inRow).done = _
  rw [backToRows, popUntilCurrent_inMaking (by decide),
    openTag_inMaking larger (Nat.lt_succ_self k) (by decide) (by simp)]
  rfl

theorem process_startTag_cell {attributes : List Attribute} (size : nodes.length = k)
    (inTree : i < k) :
    (inMaking .inRow formatting (⟨i, .ofPage "tr"⟩ :: below) nodes).process
        (.startTag ⟨"td", attributes, false⟩) =
      (.done, inMaking .inCell (.marker :: formatting)
        (⟨k, .ofPage "td"⟩ :: ⟨i, .ofPage "tr"⟩ :: below)
        (withElement nodes i "td" attributes)) := by
  refine process_of_byMode (fun _ => nofun) ?_
  change (((popUntilCurrent _ ElementName.holdsCells).openTag _).withMode
    .inCell).markFormatting.done = _
  rw [popUntilCurrent_inMaking (by decide), openTag_inMaking size inTree (by decide) (by simp)]
  rfl

theorem process_endTag_cell :
    (inMaking .inCell (.marker :: formatting) (⟨i, .ofPage "td"⟩ :: below) nodes).process
        (.endTag "td") =
      (.done, inMaking .inRow formatting below nodes) := by
  have closed : inCell (inMaking .inCell (.marker :: formatting) (⟨i, .ofPage "td"⟩ :: below) nodes)
      (.endTag "td") = (.done, inMaking .inRow formatting below nodes) := by
    rw [inCell, if_pos (.inl rfl), hasNamedInScope_inMaking, if_pos rfl,
      closeSilently_inMaking (by decide), popUntilNamed_inMaking]
    rfl
  exact process_of_byMode (fun _ => nofun) closed

theorem process_endTag_row :
    (inMaking .inRow formatting (⟨i, .ofPage "tr"⟩ :: below) nodes).process (.endTag "tr") =
      (.done, inMaking .inTableBody formatting below nodes) := by
  have closed : inRow (inMaking .inRow formatting (⟨i, .ofPage "tr"⟩ :: below) nodes)
      (.endTag "tr") = (.done, inMaking .inTableBody formatting below nodes) := by
    rw [inRow, if_pos rfl, closeRow?, hasNamedInScope_inMaking, if_pos rfl,
      popUntilCurrent_inMaking (by decide)]
    rfl
  exact process_of_byMode (fun _ => nofun) closed

/-- The end of a table also ends its rows. -/
theorem process_endTag_table {j : Nat} (around : modeFor .inBody true below = .inBody) :
    (inMaking .inTableBody formatting
        (⟨j, .ofPage "tbody"⟩ :: ⟨i, .ofPage "table"⟩ :: below) nodes).process (.endTag "table") =
      (.done, inMaking .inBody formatting below nodes) := by
  have left : inTableBody (inMaking .inTableBody formatting
      (⟨j, .ofPage "tbody"⟩ :: ⟨i, .ofPage "table"⟩ :: below) nodes) (.endTag "table") =
        (.again, inMaking .inTable formatting (⟨i, .ofPage "table"⟩ :: below) nodes) := by
    have inScope : hasInScope (inMaking .inTableBody formatting
        (⟨j, .ofPage "tbody"⟩ :: ⟨i, .ofPage "table"⟩ :: below) nodes) ElementName.endsTableScope
          (ElementName.isAmong ["table", "tbody", "tfoot"]) = true := by
      simp [hasInScope, finds, inMaking, ElementName.isAmong, ElementName.ofPage]
    rw [inTableBody, if_neg (by decide), if_pos rfl, leaveTableBody, inScope, if_pos rfl,
      backToRows, popUntilCurrent_inMaking (by decide)]
    rfl
  have closed : inTable (inMaking .inTable formatting (⟨i, .ofPage "table"⟩ :: below) nodes)
      (.endTag "table") = (.done, inMaking .inBody formatting below nodes) := by
    rw [inTable, if_pos rfl, closeTable?, hasNamedInScope_inMaking, if_pos rfl,
      popUntilNamed_inMaking]
    simp [resetMode, properMode, withMode, inMaking, around, done]
  exact process_of_byMode_again (fun _ => nofun) left ((step_inMaking _).trans closed)

theorem process_endTag_body :
    (inMaking .inBody formatting (⟨i, .ofPage "body"⟩ :: below) nodes).process (.endTag "body") =
      (.done, inMaking .afterBody formatting (⟨i, .ofPage "body"⟩ :: below) nodes) := by
  have closed : inBody (inMaking .inBody formatting (⟨i, .ofPage "body"⟩ :: below) nodes)
      (.endTag "body") =
        (.done, inMaking .afterBody formatting (⟨i, .ofPage "body"⟩ :: below) nodes) := by
    rw [inBody, endInBody, hasNamedInScope_inMaking, if_pos rfl]
    rfl
  exact process_of_byMode (fun _ => nofun) closed

theorem process_endTag_html :
    (inMaking .afterBody formatting (⟨i, .ofPage name⟩ :: below) nodes).process (.endTag "html") =
      (.done, inMaking .afterAfterBody formatting (⟨i, .ofPage name⟩ :: below) nodes) :=
  process_of_byMode (fun _ => nofun) rfl

theorem process_blanks_afterAfterBody {run : List Char} (noTemplate : name ≠ "template") :
    (inMaking .afterAfterBody [] (⟨i, .ofPage name⟩ :: below) nodes).process (.blanks run) =
      (.done,
        inMaking .afterAfterBody [] (⟨i, .ofPage name⟩ :: below) (withText nodes i run)) :=
  process_of_byMode (fun _ => nofun) (inBody_text (.inl rfl) nofun noTemplate)

theorem process_endOfText :
    (inMaking .afterAfterBody formatting (⟨i, .ofPage name⟩ :: below) nodes).process .endOfText =
      (.done, inMaking .afterAfterBody formatting (⟨i, .ofPage name⟩ :: below) nodes) :=
  process_of_byMode (fun _ => nofun) rfl

end Builder

end ScriptLint.Markup
