import ScriptLint.Docs.SignaturePage
import ScriptLint.Proofs.Markup.TableConstruction

/-!
# The tree of a page of signatures

Each signature becomes a row of nodes behind those of the earlier ones: an item with a prototype,
whose table holds the signature in its only cell, and with a description.
-/

namespace ScriptLint

open Markup

namespace SignaturePage

/-- The markup of an item up to its signature. -/
def beforeSignature : String :=
  "<div class=\"memitem\">\n<div class=\"memproto\">\n" ++
    "<table class=\"memname\"><tr><td class=\"memname\">"

/-- The markup of an item behind its signature. -/
def behindSignature : String :=
  "</td></tr></table>\n</div>\n<div class=\"memdoc\"><p>Documented.</p></div>\n</div>\n"

theorem item_eq (signature : String) :
    item signature = beforeSignature ++ signature ++ behindSignature :=
  rfl

/-- A text without brackets, references or null characters, which no markup is read from. -/
def IsPlain (text : List Char) : Prop :=
  ∀ c ∈ text, c ≠ '<' ∧ c ≠ '&' ∧ c.toNat ≠ 0

instance (text : List Char) : Decidable (IsPlain text) :=
  List.decidableBAll (fun c => c ≠ '<' ∧ c ≠ '&' ∧ c.toNat ≠ 0) text

theorem IsPlain.normalizeLineEnds {text : List Char} (plain : IsPlain text) :
    IsPlain (normalizeLineEnds text) := by
  intro c member
  by_cases lineFeed : c = '\n'
  · subst lineFeed
    decide
  · exact plain c (mem_of_mem_normalizeLineEnds lineFeed member)

/-- An item as its characters are read. -/
def itemText (signature : List Char) : List Char :=
  beforeSignature.toList ++ (signature ++ behindSignature.toList)

def classed (name : String) : List Attribute :=
  [⟨"class", name⟩]

def tokensBefore : List Token :=
  [.blanks ['\n'], .startTag ⟨"div", classed "memitem", false⟩, .blanks ['\n'],
    .startTag ⟨"div", classed "memproto", false⟩, .blanks ['\n'],
    .startTag ⟨"table", classed "memname", false⟩, .startTag ⟨"tr", [], false⟩,
    .startTag ⟨"td", classed "memname", false⟩]

def tokensBehind : List Token :=
  [.endTag "td", .endTag "tr", .endTag "table", .blanks ['\n'], .endTag "div", .blanks ['\n'],
    .startTag ⟨"div", classed "memdoc", false⟩, .startTag ⟨"p", [], false⟩,
    .chars "Documented.".toList, .endTag "p", .endTag "div", .blanks ['\n'], .endTag "div"]

theorem readAll_beforeSignature :
    (Lexing.text ['\n']).readAll beforeSignature.toList = (.text [], tokensBefore) := by
  decide +kernel

theorem readAll_behindSignature {signature : List Char} (plain : '&' ∉ signature) :
    (Lexing.text signature.reverse).readAll behindSignature.toList =
      (.text ['\n'], textTokens signature ++ tokensBehind) := by
  have tail : Lexing.bracket.readAll behindSignature.toList.tail =
      (.text ['\n'], tokensBehind) := by
    decide +kernel
  have shape : behindSignature.toList = '<' :: behindSignature.toList.tail := rfl
  rw [shape, Lexing.readAll_bracket (by simpa using plain), tail, List.reverse_reverse]

theorem readAll_itemText {signature : List Char} (plain : IsPlain signature) :
    (Lexing.text ['\n']).readAll (itemText signature) =
      (.text ['\n'], tokensBefore ++ (textTokens signature ++ tokensBehind)) := by
  have unopened : '<' ∉ signature := fun member => (plain '<' member).1 rfl
  have noReference : '&' ∉ signature := fun member => (plain '&' member).2.1 rfl
  simp only [itemText, Lexing.readAll_append, readAll_beforeSignature,
    Lexing.readAll_text unopened, List.append_nil, readAll_behindSignature noReference,
    List.nil_append]

/-- The children of a node that holds runs of text. -/
def textChildren (runs : List (List Char)) : List Child :=
  (runs.map Child.text).reverse

theorem textChildren_append_singleton (runs : List (List Char)) (run : List Char) :
    textChildren (runs ++ [run]) = .text run :: textChildren runs := by
  simp [textChildren]

/-- The nodes of an item whose markup has been read up to the end of its signature. -/
def prototypeNodes (k : Nat) (runs : List (List Char)) : List Node :=
  [⟨.element (.ofPage "div") (classed "memitem"), some 4, [.node (k + 1), .text ['\n']]⟩,
    ⟨.element (.ofPage "div") (classed "memproto"), some k, [.node (k + 2), .text ['\n']]⟩,
    ⟨.element (.ofPage "table") (classed "memname"), some (k + 1), [.node (k + 3)]⟩,
    ⟨.element (.ofPage "tbody") [], some (k + 2), [.node (k + 4)]⟩,
    ⟨.element (.ofPage "tr") [], some (k + 3), [.node (k + 5)]⟩,
    ⟨.element (.ofPage "td") (classed "memname"), some (k + 4), textChildren runs⟩]

/-- The nodes of an item, the first of which has the given number. -/
def itemNodes (k : Nat) (runs : List (List Char)) : List Node :=
  [⟨.element (.ofPage "div") (classed "memitem"), some 4,
      [.text ['\n'], .node (k + 6), .text ['\n'], .node (k + 1), .text ['\n']]⟩,
    ⟨.element (.ofPage "div") (classed "memproto"), some k,
      [.text ['\n'], .node (k + 2), .text ['\n']]⟩,
    ⟨.element (.ofPage "table") (classed "memname"), some (k + 1), [.node (k + 3)]⟩,
    ⟨.element (.ofPage "tbody") [], some (k + 2), [.node (k + 4)]⟩,
    ⟨.element (.ofPage "tr") [], some (k + 3), [.node (k + 5)]⟩,
    ⟨.element (.ofPage "td") (classed "memname"), some (k + 4), textChildren runs⟩,
    ⟨.element (.ofPage "div") (classed "memdoc"), some k, [.node (k + 7)]⟩,
    ⟨.element (.ofPage "p") [], some (k + 6), [.text "Documented.".toList]⟩]

/-- The open elements around the items, the latest first. -/
def contents : List OpenElement :=
  [⟨4, .ofPage "div"⟩, ⟨3, .ofPage "body"⟩, ⟨1, .ofPage "html"⟩]

/-- The open elements around the signature of an item. -/
def cell (k : Nat) : List OpenElement :=
  [⟨k + 5, .ofPage "td"⟩, ⟨k + 4, .ofPage "tr"⟩, ⟨k + 3, .ofPage "tbody"⟩,
    ⟨k + 2, .ofPage "table"⟩, ⟨k + 1, .ofPage "div"⟩, ⟨k, .ofPage "div"⟩] ++ contents

/-- The nodes before an item when the item has been begun. -/
def beside (nodes : List Node) : List Node :=
  (withText nodes 4 ['\n']).modify 4 (Node.addChild (.node nodes.length))

theorem length_beside (nodes : List Node) : (beside nodes).length = nodes.length := by
  simp [beside]

open Builder in
theorem builds_tokensBefore {nodes : List Node} {k : Nat} (size : nodes.length = k)
    (begun : 4 < k) :
    (inMaking .inBody [] contents nodes).Builds tokensBefore
      (inMaking .inCell [.marker] (cell k) (beside nodes ++ prototypeNodes k [])) := by
  -- One step for each token; what they add to the nodes is worked out at the end.
  refine .cons rfl (process_text_inBody (.inl rfl) (by decide)) ?_
  refine .cons rfl (process_startTag_block (k := k) (.inl rfl) rfl (by simpa) begun (by decide)) ?_
  refine .cons rfl (process_text_inBody (.inl rfl) (by decide)) ?_
  refine .cons rfl (process_startTag_block (k := k + 1) (.inl rfl) rfl (by simpa) (by omega)
    (by decide)) ?_
  refine .cons rfl (process_text_inBody (.inl rfl) (by decide)) ?_
  refine .cons rfl (process_startTag_table (k := k + 2) rfl (by simpa) (by omega) (by decide)) ?_
  refine .cons rfl (process_startTag_row (k := k + 3) (by simpa) (by omega)) ?_
  refine .cons rfl (process_startTag_cell (k := k + 5) (by simpa) (by omega)) ?_
  have begunItem : withElement (withText nodes 4 ['\n']) 4 "div" (classed "memitem") =
      beside nodes ++ [⟨.element (.ofPage "div") (classed "memitem"), some 4, []⟩] := by
    rw [withElement, length_withText, beside]
  have sizeBeside : (beside nodes).length = k := (length_beside nodes).trans size
  simp only [begunItem, withText_append_self sizeBeside, withElement_append_self sizeBeside,
    withText_append sizeBeside, withElement_append sizeBeside, List.modify_zero_cons,
    List.modify_succ_cons, List.cons_append, List.nil_append, List.length_cons, List.length_nil,
    Nat.add_assoc, Nat.reduceAdd, Node.addChild]
  exact .nil

open Builder in
theorem builds_textTokens {front : List Node} {k : Nat} (size : front.length = k)
    {runs : List (List Char)} {tokens : List Token} (texts : List.Forall₂ IsTextOf runs tokens)
    (earlier : List (List Char)) :
    (inMaking .inCell [.marker] (cell k) (front ++ prototypeNodes k earlier)).Builds tokens
      (inMaking .inCell [.marker] (cell k) (front ++ prototypeNodes k (earlier ++ runs))) := by
  induction texts generalizing earlier with
  | nil =>
      rw [List.append_nil]
      exact .nil
  | @cons run token runs tokens text _ ih =>
      have added : withText (front ++ prototypeNodes k earlier) (k + 5) run =
          front ++ prototypeNodes k (earlier ++ [run]) := by
        rw [withText_append size, prototypeNodes, prototypeNodes, textChildren_append_singleton]
        rfl
      have behind := ih (earlier ++ [run])
      rw [List.append_assoc, ← added] at behind
      exact .cons rfl (process_text_inCell text (by decide)) behind

open Builder in
theorem builds_tokensBehind {front : List Node} {k : Nat} (size : front.length = k)
    (runs : List (List Char)) :
    (inMaking .inCell [.marker] (cell k) (front ++ prototypeNodes k runs)).Builds tokensBehind
      (inMaking .inBody [] contents (front ++ itemNodes k runs)) := by
  have prototypeSize : (front ++ prototypeNodes k runs).length = k + 6 := by
    rw [List.length_append, size]
    rfl
  refine .cons rfl process_endTag_cell ?_
  refine .cons rfl process_endTag_row ?_
  refine .cons rfl (process_endTag_table rfl) ?_
  refine .cons rfl (process_text_inBody (.inl rfl) (by decide)) ?_
  refine .cons rfl process_endTag_block ?_
  refine .cons rfl (process_text_inBody (.inl rfl) (by decide)) ?_
  refine .cons rfl (process_startTag_block (k := k + 6) (.inl rfl) rfl (by simpa using prototypeSize)
    (by omega) (by decide)) ?_
  refine .cons rfl (process_startTag_block (k := k + 7) (.inr rfl) rfl (by simpa using prototypeSize)
    (by omega) (by decide)) ?_
  refine .cons rfl (process_text_inBody (.inr rfl) (by decide)) ?_
  refine .cons rfl process_endTag_paragraph ?_
  refine .cons rfl process_endTag_block ?_
  refine .cons rfl (process_text_inBody (.inl rfl) (by decide)) ?_
  refine .cons rfl process_endTag_block ?_
  simp only [withText_append_self size, withElement_append_self size, withText_append size,
    withElement_append size, prototypeNodes, List.modify_zero_cons,
    List.modify_succ_cons, List.cons_append, List.nil_append, List.length_cons, List.length_nil,
    Nat.reduceAdd, Node.addChild]
  exact .nil

/-- The nodes with those of an item behind them. -/
def withItem (nodes : List Node) (signature : List Char) : List Node :=
  beside nodes ++ itemNodes nodes.length (textRuns signature)

theorem length_withItem (nodes : List Node) (signature : List Char) :
    (withItem nodes signature).length = nodes.length + 8 := by
  rw [withItem, List.length_append, length_beside]
  rfl

/-- The state between two items. -/
def between (nodes : List Node) : Parser :=
  ⟨.text ['\n'], .inMaking .inBody [] contents nodes⟩

theorem readAll_between_itemText {nodes : List Node} (begun : 4 < nodes.length)
    {signature : List Char} (plain : IsPlain signature) :
    (between nodes).readAll (itemText signature) = between (withItem nodes signature) := by
  have noNull : ∀ c ∈ signature, c.toNat ≠ 0 := fun c member => (plain c member).2.2
  have size := length_beside nodes
  have builds := (builds_tokensBefore rfl begun).append
    ((builds_textTokens size (forall₂_textTokens noNull) []).append
      (builds_tokensBehind size (textRuns signature)))
  exact Parser.readAll_of_builds (readAll_itemText plain) builds rfl

/-- The nodes around the items. -/
def frame (bodyChildren contentsChildren : List Child) : List Node :=
  [⟨.document, none, [.node 1]⟩,
    ⟨.element (.ofPage "html") [], some 0, [.node 3, .node 2]⟩,
    ⟨.element (.ofPage "head") [], some 1, []⟩,
    ⟨.element (.ofPage "body") [], some 1, bodyChildren⟩,
    ⟨.element (.ofPage "div") (classed "contents"), some 3, contentsChildren⟩]

theorem readAll_opening :
    Parser.start.readAll opening.toList = between (frame [.node 4] []) := by
  decide +kernel

/-- The nodes of items in a row. -/
def itemRow : Nat → List (List Char) → List Node
  | _, [] => []
  | k, signature :: rest => itemNodes k (textRuns signature) ++ itemRow (k + 8) rest

theorem withItem_frame (bodyChildren contentsChildren : List Child) (earlier : List Node)
    (signature : List Char) :
    withItem (frame bodyChildren contentsChildren ++ earlier) signature =
      frame bodyChildren (.node (5 + earlier.length) :: .text ['\n'] :: contentsChildren) ++
        (earlier ++ itemNodes (5 + earlier.length) (textRuns signature)) := by
  have size : (frame bodyChildren contentsChildren ++ earlier).length = 5 + earlier.length := by
    rw [List.length_append]
    rfl
  rw [withItem, size, beside, size, ← List.append_assoc]
  rfl

theorem foldl_withItem (signatures : List (List Char)) (bodyChildren contentsChildren : List Child)
    (earlier : List Node) :
    ∃ grown, signatures.foldl withItem (frame bodyChildren contentsChildren ++ earlier) =
      frame bodyChildren grown ++ (earlier ++ itemRow (5 + earlier.length) signatures) := by
  induction signatures generalizing contentsChildren earlier with
  | nil => exact ⟨contentsChildren, by simp [itemRow]⟩
  | cons signature rest ih =>
      obtain ⟨grown, built⟩ := ih (.node (5 + earlier.length) :: .text ['\n'] :: contentsChildren)
        (earlier ++ itemNodes (5 + earlier.length) (textRuns signature))
      refine ⟨grown, ?_⟩
      rw [List.foldl_cons, withItem_frame, built, itemRow, List.append_assoc, List.length_append]
      rfl

theorem readAll_between_items {signatures : List (List Char)} {nodes : List Node}
    (begun : 4 < nodes.length) (plain : ∀ signature ∈ signatures, IsPlain signature) :
    (between nodes).readAll (signatures.flatMap itemText) =
      between (signatures.foldl withItem nodes) := by
  induction signatures generalizing nodes with
  | nil => rfl
  | cons signature rest ih =>
      rw [List.forall_mem_cons] at plain
      have larger : 4 < (withItem nodes signature).length := by
        rw [length_withItem]
        omega
      rw [List.flatMap_cons, Parser.readAll_append, readAll_between_itemText begun plain.1,
        ih larger plain.2, List.foldl_cons]

open Builder in
theorem finish_closing (nodes : List Node) :
    ((between nodes).readAll closing.toList).finish =
      .ofNodes (withText (withText nodes 4 ['\n']) 3 ['\n']) := by
  have read : (Lexing.text ['\n']).readAll closing.toList =
      (.text ['\n'], [.blanks ['\n'], .endTag "div", .endTag "body", .endTag "html"]) := by
    decide +kernel
  have left : (Lexing.text ['\n']).finish = [.blanks ['\n']] := by
    decide +kernel
  have closed : (inMaking .inBody [] contents nodes).Builds
      [.blanks ['\n'], .endTag "div", .endTag "body", .endTag "html"]
      (inMaking .afterAfterBody [] contents.tail (withText nodes 4 ['\n'])) := by
    refine .cons rfl (process_text_inBody (.inl rfl) (by decide)) ?_
    refine .cons rfl process_endTag_block ?_
    refine .cons rfl process_endTag_body ?_
    exact .cons rfl process_endTag_html .nil
  have ended : (inMaking .afterAfterBody [] contents.tail (withText nodes 4 ['\n'])).Builds
      [.blanks ['\n'], .endOfText]
      (inMaking .afterAfterBody [] contents.tail
        (withText (withText nodes 4 ['\n']) 3 ['\n'])) := by
    refine .cons rfl (process_blanks_afterAfterBody (by decide)) ?_
    exact .cons rfl process_endOfText .nil
  rw [between, Parser.readAll_of_builds read closed rfl, Parser.finish, left]
  rw [List.singleton_append, ended.foldl_take]
  rfl

theorem normalizeLineEnds_item (signature : String) (back : List Char) :
    normalizeLineEnds ((item signature).toList ++ back) =
      itemText (normalizeLineEnds signature.toList) ++ normalizeLineEnds back := by
  have noReturnBefore : '\r' ∉ beforeSignature.toList := by decide
  have noReturnBehind : '\r' ∉ behindSignature.toList := by decide
  have wholeBehind : (behindSignature.toList ++ back).head? ≠ some '\n' := by
    rw [List.head?_append_of_ne_nil _ (by decide)]
    decide
  rw [item_eq, String.toList_append, String.toList_append, List.append_assoc, List.append_assoc,
    normalizeLineEnds_append_of_not_mem noReturnBefore, normalizeLineEnds_append wholeBehind,
    normalizeLineEnds_append_of_not_mem noReturnBehind, itemText, List.append_assoc,
    List.append_assoc]

theorem normalizeLineEnds_items (signatures : List String) :
    normalizeLineEnds ((String.join (signatures.map item)).toList ++ closing.toList) =
      (signatures.map fun signature => normalizeLineEnds signature.toList).flatMap itemText ++
        closing.toList := by
  induction signatures with
  | nil => rfl
  | cons signature rest ih =>
      rw [List.map_cons, String.join_cons, String.toList_append, List.append_assoc,
        normalizeLineEnds_item, ih, List.map_cons, List.flatMap_cons,
        List.append_assoc]

/-- The characters of a page of signatures, with line feeds at the ends of their lines. -/
theorem readable_ofSignatures (signatures : List String) :
    readable (ofSignatures signatures) =
      opening.toList ++
        ((signatures.map fun signature => normalizeLineEnds signature.toList).flatMap itemText ++
          closing.toList) := by
  have noReturn : '\r' ∉ opening.toList := by decide
  have shape : opening.toList = '<' :: opening.toList.tail := rfl
  have normalized : normalizeLineEnds (ofSignatures signatures).toList = opening.toList ++
        ((signatures.map fun signature => normalizeLineEnds signature.toList).flatMap itemText ++
          closing.toList) := by
    rw [ofSignatures, String.toList_append, String.toList_append, List.append_assoc,
      normalizeLineEnds_append_of_not_mem noReturn, normalizeLineEnds_items]
  rw [readable, normalized, shape]
  rfl

/-- The tree of a page of signatures. -/
theorem ofMarkup_ofSignatures {signatures : List String}
    (plain : ∀ signature ∈ signatures, IsPlain signature.toList) :
    ∃ contentsChildren, Tree.ofMarkup (ofSignatures signatures) =
      .ofNodes (frame [.text ['\n'], .node 4] contentsChildren ++
        itemRow 5 (signatures.map fun signature => normalizeLineEnds signature.toList)) := by
  have plainRead : ∀ signature ∈
      signatures.map fun signature => normalizeLineEnds signature.toList, IsPlain signature := by
    rw [List.forall_mem_map]
    exact fun signature member => (plain signature member).normalizeLineEnds
  obtain ⟨grown, built⟩ := foldl_withItem
    (signatures.map fun signature => normalizeLineEnds signature.toList) [.node 4] [] []
  refine ⟨.text ['\n'] :: grown, ?_⟩
  rw [Tree.ofMarkup, readable_ofSignatures, Parser.readAll_append, readAll_opening,
    Parser.readAll_append, readAll_between_items (by decide) plainRead, finish_closing]
  rw [List.append_nil] at built
  rw [built]
  rfl

end SignaturePage

end ScriptLint
