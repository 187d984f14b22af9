import Mathlib.Data.List.Induction
import ScriptLint.Markup.Selector.Basic
import ScriptLint.Proofs.Markup.TableConstruction

/-!
# Elements by name and class

Whether a node has a name and a class shows in the node alone, so the elements that have both are
found by walking through the nodes once.
-/

namespace ScriptLint.Markup

/-- Whether an element has a name, written in small letters, and a class. -/
def NodeKind.isClassed (name className : String) : NodeKind → Bool
  | .element known attributes =>
    known.name == (if known.vocabulary == .page then name.map Char.toLower else name) &&
      ((attributes.find? fun entry => entry.name == "class").map Attribute.value).any
        fun classes => (Text.words classes.toList).contains className.toList
  | _ => false

theorem accepts_classed (tree : Tree) (within anchored : Option Nat) (name className : String)
    (index : Nat) :
    (Selector.both (.named name) (.inClass className)).accepts tree within anchored index =
      (tree.node? index).any fun node => node.kind.isClassed name className := by
  cases found : tree.node? index with
  | none => simp [Selector.accepts, Tree.name?, found]
  | some node =>
      cases kind : node.kind with
      | document => simp [Selector.accepts, Tree.name?, NodeKind.isClassed, found, kind]
      | fragment => simp [Selector.accepts, Tree.name?, NodeKind.isClassed, found, kind]
      | element known attributes =>
          simp [Selector.accepts, Tree.name?, NodeKind.isClassed, found, kind, nameAt,
            Tree.isPageElement, Selector.isInClass, Tree.value?, Tree.attributes]

theorem filter_range_getElem? {α : Type} (q : α → Bool) (entries : List α) :
    ((List.range entries.length).filter fun index => entries[index]?.any q) =
      entries.findIdxs q := by
  induction entries using List.reverseRecOn with
  | nil => rfl
  | append_singleton front last ih =>
      rw [List.length_append, List.length_singleton, List.range_succ, List.filter_append,
        List.findIdxs_append, ← ih]
      congr 1
      · refine List.filter_congr fun index member => ?_
        rw [List.getElem?_append_left (List.mem_range.mp member)]
      · simp [List.filter_cons]

/-- The elements of a name and a class stand in the tree in the order of their nodes. -/
theorem select_classed (nodes : List Node) (name className : String) :
    (Tree.ofNodes nodes).select (.both (.named name) (.inClass className)) =
      nodes.findIdxs fun node => node.parent.isSome && node.kind.isClassed name className := by
  rw [Tree.select, Tree.elements, List.filter_filter, ← filter_range_getElem?]
  refine List.filter_congr fun index _ => ?_
  rw [accepts_classed]
  have entry : (Tree.ofNodes nodes).node? index = nodes[index]? := by
    simp [Tree.node?, Tree.ofNodes]
  rw [Tree.parent?, Tree.isElement, entry]
  cases nodes[index]? with
  | none => rfl
  | some node =>
      cases kind : node.kind with
      | document => simp [NodeKind.isClassed, kind]
      | fragment => simp [NodeKind.isClassed, kind]
      | element known attributes => simp [kind, Bool.and_comm]

theorem Tree.textWithin_of_single {tree : Tree} {index inner : Nat}
    (single : tree.childrenOf index = [.node inner]) (depth : Nat) :
    tree.textWithin (depth + 1) index = tree.textWithin depth inner := by
  rw [textWithin, single]
  exact List.append_nil _

end ScriptLint.Markup
