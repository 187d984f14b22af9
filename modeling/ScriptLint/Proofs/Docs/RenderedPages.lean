import Mathlib.Tactic.IntervalCases
import ScriptLint.Docs.Layout
import ScriptLint.Proofs.Docs.PageConstruction
import ScriptLint.Proofs.Docs.RespacedText
import ScriptLint.Proofs.Markup.ClassSelection
import ScriptLint.Proofs.Table.Rebuilding

/-!
# Reading rendered pages

A page of signatures is read back signature by signature: the rows of the older layout find
nothing in it, and each of its items has one prototype, whose text is the signature between two
line feeds.  What a signature is cannot depend on how the blanks in it are collapsed.
-/

namespace ScriptLint

/-- Texts without a signature may be passed over. -/
theorem Signature.table_filter {p : String → Bool}
    (useless : ∀ text, p text = false → Signature.parse? text = none) (texts : List String) :
    Signature.table (texts.filter p) = Signature.table texts := by
  have sameParses : (fun text => if p text then Signature.parse? text else none) =
      Signature.parse? := by
    funext text
    cases picked : p text with
    | true => rfl
    | false => exact (useless text picked).symm
  rw [Signature.table, Signature.table, List.filterMap_filter, sameParses]

theorem DocPage.textsWithin_of_ofText? {outer inner : String}
    {outerCondition innerCondition : Markup.Selector}
    (outerRead : Markup.Selector.ofText? outer = some outerCondition)
    (innerRead : Markup.Selector.ofText? inner = some innerCondition) (page : DocPage) :
    page.textsWithin outer inner =
      .ok ((page.tree.select outerCondition).map (page.textWithin innerCondition)) := by
  rw [DocPage.textsWithin, DocPage.selector, DocPage.selector, outerRead, innerRead]

theorem Layout.fragments_tableRows (page : DocPage) :
    Layout.tableRows.fragments page =
      page.textsWithin "table.memberdecls tr.memitem" "td.memItemLeft, td.memItemRight" := by
  rw [Layout.tableRows]

theorem Layout.fragments_prototypes (page : DocPage) :
    Layout.prototypes.fragments page =
      (page.textsWithin "div.memitem" "div.memproto").map fun texts => texts.filter (· != "") := by
  rw [Layout.prototypes]

namespace SignaturePage

open Markup

/-- What the nodes of an item are. -/
def itemKinds : List NodeKind :=
  [.element (.ofPage "div") (classed "memitem"), .element (.ofPage "div") (classed "memproto"),
    .element (.ofPage "table") (classed "memname"), .element (.ofPage "tbody") [],
    .element (.ofPage "tr") [], .element (.ofPage "td") (classed "memname"),
    .element (.ofPage "div") (classed "memdoc"), .element (.ofPage "p") []]

/-- What the nodes around the items are. -/
def frameKinds : List NodeKind :=
  [.document, .element (.ofPage "html") [], .element (.ofPage "head") [],
    .element (.ofPage "body") [], .element (.ofPage "div") (classed "contents")]

/-- Each item is marked as one, and so is its prototype; nothing else is. -/
theorem isClassed_kinds :
    (itemKinds.map fun kind => (true, kind)).findIdxs
        (fun node => node.1 && node.2.isClassed "div" "memitem") = [0] ∧
      [1, 2, 3, 4, 5, 6, 7].filter (fun j =>
        itemKinds[j]?.any (NodeKind.isClassed "div" "memproto")) = [1] ∧
      (∀ kind ∈ frameKinds, kind.isClassed "div" "memitem" = false) ∧
      ∀ kind ∈ frameKinds ++ itemKinds, kind.isClassed "tr" "memitem" = false := by
  decide +kernel

theorem map_kind_itemNodes (k : Nat) (runs : List (List Char)) :
    (itemNodes k runs).map Node.kind = itemKinds :=
  rfl

/-- Only the first node of an item is an item. -/
theorem findIdxs_itemNodes (k start : Nat) (runs : List (List Char)) :
    (itemNodes k runs).findIdxs
      (fun node => node.parent.isSome && node.kind.isClassed "div" "memitem") start = [start] := by
  have kinds : (itemNodes k runs).map (fun node => (node.parent.isSome, node.kind)) =
      itemKinds.map fun kind => (true, kind) :=
    rfl
  have first := isClassed_kinds.1
  calc
    _ = ((itemNodes k runs).map fun node => (node.parent.isSome, node.kind)).findIdxs
        (fun node => node.1 && node.2.isClassed "div" "memitem") start :=
      List.findIdxs_map.symm
    _ = [start] := by
      rw [kinds, List.findIdxs_start, first]
      simp

/-- The items of a row stand eight nodes apart. -/
theorem findIdxs_itemRow_cons (k : Nat) (signature : List Char) (rest : List (List Char)) :
    (itemRow k (signature :: rest)).findIdxs
        (fun node => node.parent.isSome && node.kind.isClassed "div" "memitem") k =
      k :: (itemRow (k + 8) rest).findIdxs
        (fun node => node.parent.isSome && node.kind.isClassed "div" "memitem") (k + 8) := by
  rw [itemRow, List.findIdxs_append, findIdxs_itemNodes]
  rfl

theorem kind_mem_itemKinds {k : Nat} {signatures : List (List Char)} {node : Node}
    (member : node ∈ itemRow k signatures) : node.kind ∈ itemKinds := by
  induction signatures generalizing k with
  | nil => simp [itemRow] at member
  | cons signature rest ih =>
      rw [itemRow, List.mem_append] at member
      rcases member with inItem | inRest
      · rw [← map_kind_itemNodes k (textRuns signature)]
        exact List.mem_map_of_mem inItem
      · exact ih inRest

/-- A tree in which an item stands between other nodes. -/
def treeWith (front : List Node) (runs : List (List Char)) (back : List Node) : Tree :=
  .ofNodes (front ++ (itemNodes front.length runs ++ back))

section

variable {front : List Node} {runs : List (List Char)} {back : List Node} {j : Nat}

theorem node?_treeWith (inside : j < 8) :
    (treeWith front runs back).node? (front.length + j) =
      (itemNodes front.length runs)[j]? := by
  have short : j < (itemNodes front.length runs).length := inside
  simp [treeWith, Tree.node?, Tree.ofNodes, List.getElem?_append, short]

theorem kind_treeWith (inside : j < 8) :
    ((treeWith front runs back).node? (front.length + j)).map Node.kind = itemKinds[j]? := by
  rw [node?_treeWith inside, ← List.getElem?_map, map_kind_itemNodes]

theorem isElement_treeWith (inside : j < 8) :
    (treeWith front runs back).isElement (front.length + j) = true := by
  rw [Tree.isElement, kind_treeWith inside]
  interval_cases j <;> rfl

theorem accepts_treeWith (within anchored : Option Nat) (name className : String)
    (inside : j < 8) :
    (Selector.both (.named name) (.inClass className)).accepts (treeWith front runs back) within
        anchored (front.length + j) =
      itemKinds[j]?.any (NodeKind.isClassed name className) := by
  rw [accepts_classed, ← kind_treeWith inside, Option.any_map]

theorem childrenOf_treeWith (inside : j < 8) :
    (treeWith front runs back).childrenOf (front.length + j) =
      ((itemNodes front.length runs)[j]?.map Node.children).getD [] := by
  rw [Tree.childrenOf, node?_treeWith inside]

/-- The nodes among the children of each node of an item, counted from the first one. -/
def innerNodes : Nat → List Nat
  | 0 => [1, 6]
  | 1 => [2]
  | 2 => [3]
  | 3 => [4]
  | 4 => [5]
  | 6 => [7]
  | _ => []

theorem childNodes_treeWith (inside : j < 8) :
    (treeWith front runs back).childNodes (front.length + j) =
      (innerNodes j).map (front.length + ·) := by
  rw [Tree.childNodes, childrenOf_treeWith inside]
  interval_cases j <;> simp [itemNodes, innerNodes, textChildren]

/-- The nodes inside an item. -/
theorem descendantsWithin_treeWith (depth : Nat) :
    (treeWith front runs back).descendantsWithin (depth + 6) front.length =
      [1, 2, 3, 4, 5, 6, 7].map (front.length + ·) := by
  have inner {j : Nat} (inside : j < 8) :
      (treeWith front runs back).childNodes (front.length + j) =
        (innerNodes j).map (front.length + ·) :=
    childNodes_treeWith inside
  have top : (treeWith front runs back).childNodes front.length =
      [front.length + 1, front.length + 6] :=
    inner (j := 0) (by decide)
  simp [Tree.descendantsWithin, top, inner, innerNodes]

/-- The text inside the prototype of an item. -/
theorem textWithin_treeWith (depth : Nat) :
    (treeWith front runs back).textWithin (depth + 5) (front.length + 1) =
      '\n' :: (runs.flatten ++ ['\n']) := by
  have prototype : (treeWith front runs back).childrenOf (front.length + 1) =
      [.text ['\n'], .node (front.length + 2), .text ['\n']] :=
    childrenOf_treeWith (by decide)
  have table : (treeWith front runs back).childrenOf (front.length + 2) =
      [.node (front.length + 3)] :=
    childrenOf_treeWith (by decide)
  have rows : (treeWith front runs back).childrenOf (front.length + 3) =
      [.node (front.length + 4)] :=
    childrenOf_treeWith (by decide)
  have row : (treeWith front runs back).childrenOf (front.length + 4) =
      [.node (front.length + 5)] :=
    childrenOf_treeWith (by decide)
  have cell : (treeWith front runs back).childrenOf (front.length + 5) = textChildren runs :=
    childrenOf_treeWith (by decide)
  have cellText : (treeWith front runs back).textWithin (depth + 1) (front.length + 5) =
      runs.flatten := by
    simp [Tree.textWithin, cell, textChildren, List.flatMap_map]
  rw [← cellText, ← Tree.textWithin_of_single row, ← Tree.textWithin_of_single rows,
    ← Tree.textWithin_of_single table, Tree.textWithin, prototype]
  rfl

theorem exists_size_treeWith (front : List Node) (runs : List (List Char)) (back : List Node) :
    ∃ depth, (treeWith front runs back).nodes.size = depth + 6 := by
  have size : (treeWith front runs back).nodes.size = front.length + (8 + back.length) := by
    rw [treeWith, Tree.ofNodes, List.size_toArray, List.length_append, List.length_append]
    rfl
  exact ⟨front.length + (2 + back.length), by omega⟩

/-- An item has one prototype. -/
theorem selectWithin_treeWith :
    (treeWith front runs back).selectWithin (.both (.named "div") (.inClass "memproto"))
        front.length = [front.length + 1] := by
  obtain ⟨depth, deep⟩ := exists_size_treeWith front runs back
  have chosen := isClassed_kinds.2.1
  rw [Tree.selectWithin, Tree.descendants, deep, descendantsWithin_treeWith, List.filter_filter,
    List.filter_map]
  calc
    _ = ([1, 2, 3, 4, 5, 6, 7].filter fun j =>
        itemKinds[j]?.any (NodeKind.isClassed "div" "memproto")).map (front.length + ·) := by
      refine congrArg (List.map (front.length + ·)) (List.filter_congr fun j member => ?_)
      have inside : j < 8 := by
        simp only [List.mem_cons, List.not_mem_nil, or_false] at member
        omega
      rw [Function.comp_apply, accepts_treeWith _ _ _ _ inside, isElement_treeWith inside,
        Bool.and_true]
    _ = [front.length + 1] := by rw [chosen, List.map_singleton]

/-- What is read in an item is its signature between two line feeds. -/
theorem textWithin_item :
    (DocPage.mk (treeWith front runs back)).textWithin
        (.both (.named "div") (.inClass "memproto")) front.length =
      String.ofList (Text.collapse ('\n' :: (runs.flatten ++ ['\n']))) := by
  obtain ⟨depth, deep⟩ := exists_size_treeWith front runs back
  rw [DocPage.textWithin, selectWithin_treeWith, List.map_singleton, Tree.textOf, deep,
    textWithin_treeWith (depth + 1), List.intercalate_singleton]

end

/-- The items of a page are read one by one. -/
theorem map_textWithin_items (front : List Node) (signatures : List (List Char)) :
    ((itemRow front.length signatures).findIdxs
        (fun node => node.parent.isSome && node.kind.isClassed "div" "memitem")
          front.length).map
        ((DocPage.mk (Tree.ofNodes (front ++ itemRow front.length signatures))).textWithin
          (.both (.named "div") (.inClass "memproto"))) =
      signatures.map fun signature =>
        String.ofList (Text.collapse ('\n' :: (signature ++ ['\n']))) := by
  induction signatures generalizing front with
  | nil => rfl
  | cons signature rest ih =>
      have behind := ih (front ++ itemNodes front.length (textRuns signature))
      have size : (front ++ itemNodes front.length (textRuns signature)).length =
          front.length + 8 :=
        List.length_append
      rw [size, List.append_assoc, ← itemRow] at behind
      rw [findIdxs_itemRow_cons, List.map_cons, behind, itemRow, ← treeWith, textWithin_item,
        flatten_textRuns, List.map_cons]

theorem kind_mem_frameKinds {bodyChildren contentsChildren : List Child} {node : Node}
    (member : node ∈ frame bodyChildren contentsChildren) : node.kind ∈ frameKinds := by
  have kinds : (frame bodyChildren contentsChildren).map Node.kind = frameKinds := rfl
  rw [← kinds]
  exact List.mem_map_of_mem member

theorem select_items (bodyChildren contentsChildren : List Child) (signatures : List (List Char)) :
    (Tree.ofNodes (frame bodyChildren contentsChildren ++ itemRow 5 signatures)).select
        (.both (.named "div") (.inClass "memitem")) =
      (itemRow 5 signatures).findIdxs
        (fun node => node.parent.isSome && node.kind.isClassed "div" "memitem") 5 := by
  have noItem := isClassed_kinds.2.2.1
  rw [select_classed, List.findIdxs_append, List.findIdxs_eq_nil_iff.mpr]
  · rfl
  · intro node member
    rw [noItem node.kind (kind_mem_frameKinds member), Bool.and_false]

/-- No row of a table is marked as an item. -/
theorem select_rows (bodyChildren contentsChildren : List Child) (signatures : List (List Char))
    (around : Selector) :
    (Tree.ofNodes (frame bodyChildren contentsChildren ++ itemRow 5 signatures)).select
        (.both (.both (.named "tr") (.inClass "memitem")) around) = [] := by
  have noRow := isClassed_kinds.2.2.2
  refine List.filter_eq_nil_iff.mpr fun index _ accepted => ?_
  have marked := (Bool.and_eq_true_iff.mp accepted).1
  rw [accepts_classed, Option.any_eq_true] at marked
  obtain ⟨node, found, isRow⟩ := marked
  have member : node ∈ frame bodyChildren contentsChildren ++ itemRow 5 signatures := by
    refine List.mem_of_getElem? (i := index) ?_
    simpa [Tree.node?, Tree.ofNodes] using found
  have known : node.kind ∈ frameKinds ++ itemKinds :=
    List.mem_append.mpr ((List.mem_append.mp member).imp kind_mem_frameKinds kind_mem_itemKinds)
  rw [noRow node.kind known] at isRow
  exact Bool.false_ne_true isRow

/-- What is looked for in the rows of the older layout, and in the items of this one. -/
theorem ofText?_selectors :
    Selector.ofText? "table.memberdecls tr.memitem" =
        some (.both (.both (.named "tr") (.inClass "memitem"))
          (.related .ancestor (.both (.named "table") (.inClass "memberdecls")))) ∧
      Selector.ofText? "td.memItemLeft, td.memItemRight" =
        some (.either (.both (.named "td") (.inClass "memItemLeft"))
          (.both (.named "td") (.inClass "memItemRight"))) ∧
      Selector.ofText? "div.memitem" = some (.both (.named "div") (.inClass "memitem")) ∧
      Selector.ofText? "div.memproto" = some (.both (.named "div") (.inClass "memproto")) := by
  decide +kernel

section

variable (bodyChildren contentsChildren : List Child)

theorem extract_tableRows (signatures : List (List Char)) :
    Layout.tableRows.extract
        ⟨.ofNodes (frame bodyChildren contentsChildren ++ itemRow 5 signatures)⟩ = .ok .empty := by
  obtain ⟨rows, cells, -⟩ := ofText?_selectors
  rw [Layout.extract, Layout.fragments_tableRows, DocPage.textsWithin_of_ofText? rows cells,
    select_rows]
  rfl

theorem extract_prototypes (signatures : List String) :
    Layout.prototypes.extract
        ⟨.ofNodes (frame bodyChildren contentsChildren ++
          itemRow 5 (signatures.map fun signature => normalizeLineEnds signature.toList))⟩ =
      .ok (Signature.table signatures) := by
  obtain ⟨-, -, items, prototype⟩ := ofText?_selectors
  have useless (text : String) (passedOver : (text != "") = false) :
      Signature.parse? text = none := by
    have noText : text = "" := by simpa using passedOver
    rw [noText, Signature.parse?, String.toList_empty, Signature.first?]
  have texts := map_textWithin_items (frame bodyChildren contentsChildren)
    (signatures.map fun signature => normalizeLineEnds signature.toList)
  have size : (frame bodyChildren contentsChildren).length = 5 := rfl
  rw [size, ← select_items] at texts
  rw [Layout.extract, Layout.fragments_prototypes,
    DocPage.textsWithin_of_ofText? items prototype, texts, Except.map, Except.map,
    Signature.table_filter useless, List.map_map, Signature.table, Signature.table,
    List.filterMap_map]
  have sameParses : Signature.parse? ∘
      ((fun signature => String.ofList (Text.collapse ('\n' :: (signature ++ ['\n'])))) ∘
        fun signature : String => normalizeLineEnds signature.toList) = Signature.parse? := by
    funext signature
    rw [Function.comp_apply, Function.comp_apply, parse?_collapsedLine]
  rw [sameParses]

end

/-- A page of signatures documents the methods that its signatures name. -/
theorem methodsOfMarkup_ofSignatures {signatures : List String}
    (plain : ∀ signature ∈ signatures, IsPlain signature.toList) :
    methodsOfMarkup (ofSignatures signatures) = Signature.table signatures := by
  obtain ⟨contentsChildren, built⟩ := ofMarkup_ofSignatures plain
  rw [methodsOfMarkup, Layout.extractAll, DocPage.ofMarkup, built, Layout.known, List.foldl_cons,
    List.foldl_cons, List.foldl_nil, extract_tableRows, extract_prototypes]
  exact MethodTable.empty_merge _

theorem methodsOfMarkup_awkwardSignatures :
    (∀ signature ∈ ["void  play(\r\n int a,\tbool b )", " \u3000", "x > y \"é\" stop()", "no call"],
        IsPlain signature.toList) ∧
      methodsOfMarkup (ofSignatures
          ["void  play(\r\n int a,\tbool b )", " \u3000", "x > y \"é\" stop()", "no call"]) =
        .ofPairs [("play", 2), ("stop", 0)] := by
  refine ⟨by decide +kernel, ?_⟩
  rw [methodsOfMarkup_ofSignatures (by decide +kernel)]
  decide +kernel

end SignaturePage

end ScriptLint
