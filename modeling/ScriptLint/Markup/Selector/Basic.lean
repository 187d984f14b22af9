import ScriptLint.Markup.Traversal
import ScriptLint.Text.Blank

/-!
# Selectors

A selector is a condition on an element of a tree.  Conditions on other elements that stand in some
relation to it are selectors themselves, so a chain such as rows of a table is the condition on the
row together with the condition that some ancestor is the table.
-/

namespace ScriptLint.Markup

/-- How another element stands to an element. -/
inductive Relation where
  | ancestor
  | parent
  | previous
  | earlier
deriving DecidableEq, Repr

/-- How the value of an attribute is compared. -/
inductive Comparison where
  | equal
  | word
  /-- It is the given text, or begins with it and a dash. -/
  | dashed
  | beginning
  | ending
  | inside
deriving DecidableEq, Repr

/-- How capital and small letters of values are told apart. -/
inductive LetterCase where
  | apart
  /-- They are not. -/
  | alike
  /-- They are not in page elements. -/
  | alikeInPages
deriving DecidableEq, Repr

/-- Which siblings an element is counted among, and from which end. -/
structure Counting where
  /-- Whether only elements of the same name are counted. -/
  sameName : Bool
  /-- Whether the last one is counted first. -/
  fromEnd : Bool
deriving DecidableEq, Repr

/-- A condition on an element. -/
inductive Selector where
  | any
  | never
  /-- An element of the given name; page elements have small letters. -/
  | named (name : String)
  | identity (id : String)
  | inClass (name : String)
  | has (name : String)
  /-- An element whose attribute has a value like the given one. -/
  | value (name : String) (comparison : Comparison) (text : String) (letterCase : LetterCase)
  /-- An element counted as the given offset, plus any multiple of the given step. -/
  | counted (counting : Counting) (step offset : Int)
  | root
  /-- An element that holds nothing. -/
  | empty
  | scope
  | anchor
  | both (left right : Selector)
  /-- At least one condition. -/
  | either (left right : Selector)
  | except (inner : Selector)
  | related (relation : Relation) (inner : Selector)
  /-- Some element of the tree fulfils the condition, in which this element is the anchor. -/
  | surrounded (inner : Selector)
deriving DecidableEq, Repr

def Relation.elements (relation : Relation) (tree : Tree) (index : Nat) : List Nat :=
  match relation with
  | ancestor => tree.ancestors index
  | parent => (tree.parentElement? index).toList
  | previous => (tree.earlierSiblings index).take 1
  | earlier => tree.earlierSiblings index

/-- Whether a text stands inside another one. -/
def isInside (text : List Char) : List Char → Bool
  | [] => text.isEmpty
  | c :: rest => text.isPrefixOf (c :: rest) || isInside text rest

/-- Whether a value compares to a text.  An empty text is only found by comparing the whole. -/
def Comparison.accepts (comparison : Comparison) (text value : List Char) : Bool :=
  match comparison with
  | equal => value == text
  | word =>
    !text.isEmpty &&
      (value.splitBy fun left right => isMarkupBlank left == isMarkupBlank right).contains text &&
      !text.any isMarkupBlank
  | dashed => value == text || (text ++ ['-']).isPrefixOf value
  | beginning => !text.isEmpty && text.isPrefixOf value
  | ending => !text.isEmpty && text.reverse.isPrefixOf value.reverse
  | inside => !text.isEmpty && isInside text value

def Tree.isPageElement (tree : Tree) (index : Nat) : Bool :=
  (tree.name? index).any fun name => name.vocabulary == .page

/-- A name as it is compared with names at an element: in small letters at page elements. -/
def nameAt (tree : Tree) (index : Nat) (name : String) : String :=
  if tree.isPageElement index then name.map Char.toLower else name

/-- The letters of a text, capital ones made small if they are not told apart at an element. -/
def LetterCase.letters (letterCase : LetterCase) (tree : Tree) (index : Nat) (text : String) :
    List Char :=
  let alike : Bool :=
    match letterCase with
    | apart => false
    | alike => true
    | alikeInPages => tree.isPageElement index
  if alike then text.toList.map Char.toLower else text.toList

/-- The number of an element among those it is counted with, from one. -/
def Counting.number (counting : Counting) (tree : Tree) (index : Nat) : Nat :=
  let candidates :=
    (tree.siblings index).filter fun other =>
      !counting.sameName || tree.name? other == tree.name? index
  let ordered := if counting.fromEnd then candidates.reverse else candidates
  (ordered.takeWhile (· != index)).length + 1

/-- Whether a number is an offset plus a multiple of a step, the multiplier being natural. -/
def isCounted (step offset : Int) (number : Nat) : Bool :=
  let distance : Int := number - offset
  if step = 0 then distance == 0 else distance % step == 0 && 0 ≤ distance / step

namespace Selector

/-- Whether an element is in a class: whether the class is a word of its attribute. -/
def isInClass (tree : Tree) (index : Nat) (name : String) : Bool :=
  (tree.value? index "class").any fun classes => (Text.words classes.toList).contains name.toList

/-- Whether an element fulfils a condition, given the element in which the search is made and the
element about whose surroundings the question is. -/
def accepts (tree : Tree) (within : Option Nat) : Selector → Option Nat → Nat → Bool
  | any, _, _ => true
  | never, _, _ => false
  | named name, _, index =>
    (tree.name? index).any fun known => known.name == nameAt tree index name
  | identity id, _, index => tree.value? index "id" == some id
  | inClass name, _, index => isInClass tree index name
  | has name, _, index => (tree.value? index (nameAt tree index name)).isSome
  | value name comparison text letterCase, _, index =>
    (tree.value? index (nameAt tree index name)).any fun known =>
      comparison.accepts (letterCase.letters tree index text) (letterCase.letters tree index known)
  | counted counting step offset, _, index => isCounted step offset (counting.number tree index)
  | root, _, index => tree.parent? index == some 0
  | empty, _, index =>
    (tree.childrenOf index).all fun child =>
      match child with
      | .node inner => !tree.isElement inner
      | .text _ => false
  | scope, _, index =>
    match within with
    | some outer => index == outer
    | none => tree.parent? index == some 0
  | anchor, anchored, index => anchored == some index
  | both left right, anchored, index =>
    accepts tree within left anchored index && accepts tree within right anchored index
  | either left right, anchored, index =>
    accepts tree within left anchored index || accepts tree within right anchored index
  | except inner, anchored, index => !accepts tree within inner anchored index
  | related relation inner, anchored, index =>
    (relation.elements tree index).any fun other => accepts tree within inner anchored other
  | surrounded inner, _, index =>
    tree.elements.any fun other => accepts tree within inner (some index) other

end Selector

/-- The elements of a tree that fulfil a condition, in the order of their creation. -/
def Tree.select (tree : Tree) (selector : Selector) : List Nat :=
  tree.elements.filter fun index => selector.accepts tree none none index

/-- The elements inside an element that fulfil a condition, in document order. -/
def Tree.selectWithin (tree : Tree) (selector : Selector) (outer : Nat) : List Nat :=
  (tree.descendants outer).filter fun index => selector.accepts tree (some outer) none index

end ScriptLint.Markup
