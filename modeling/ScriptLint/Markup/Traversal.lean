import ScriptLint.Markup.Tree

/-!
# Walking through a tree

The relations between the elements of a tree and the text that an element holds.  Elements count as
related only directly: what a template holds has no parent element.  Walks are bounded by the number
of nodes, which no path exceeds.
-/

namespace ScriptLint.Markup.Tree

def isElement (tree : Tree) (index : Nat) : Bool :=
  match (tree.node? index).map Node.kind with
  | some (.element _ _) => true
  | _ => false

def name? (tree : Tree) (index : Nat) : Option ElementName :=
  match (tree.node? index).map Node.kind with
  | some (.element name _) => some name
  | _ => none

def attributes (tree : Tree) (index : Nat) : List Attribute :=
  match (tree.node? index).map Node.kind with
  | some (.element _ attributes) => attributes
  | _ => []

def value? (tree : Tree) (index : Nat) (name : String) : Option String :=
  ((tree.attributes index).find? fun entry => entry.name == name).map Attribute.value

/-- The elements that have a parent, in the order of their creation. -/
def elements (tree : Tree) : List Nat :=
  (List.range tree.nodes.size).filter fun index =>
    tree.isElement index && (tree.parent? index).isSome

/-- The nodes among the children of a node, in order. -/
def childNodes (tree : Tree) (index : Nat) : List Nat :=
  (tree.childrenOf index).reverse.filterMap fun child =>
    match child with
    | .node inner => some inner
    | .text _ => none

/-- The elements among the children of a node, in order. -/
def childElements (tree : Tree) (index : Nat) : List Nat :=
  (tree.childNodes index).filter tree.isElement

def parentElement? (tree : Tree) (index : Nat) : Option Nat :=
  (tree.parent? index).filter tree.isElement

/-- The elements that a node stands in, going outward, up to a number of them. -/
def ancestorsWithin (tree : Tree) : Nat → Nat → List Nat
  | 0, _ => []
  | steps + 1, index =>
    match tree.parentElement? index with
    | some parent => parent :: ancestorsWithin tree steps parent
    | none => []

/-- The elements that a node stands in, going outward. -/
def ancestors (tree : Tree) (index : Nat) : List Nat :=
  tree.ancestorsWithin tree.nodes.size index

/-- The elements with the same parent, in order, with the element itself. -/
def siblings (tree : Tree) (index : Nat) : List Nat :=
  match tree.parent? index with
  | some parent => tree.childElements parent
  | none => []

/-- The siblings before an element, the nearest first. -/
def earlierSiblings (tree : Tree) (index : Nat) : List Nat :=
  ((tree.siblings index).takeWhile (· != index)).reverse

/-- The nodes inside a node in document order, down to a depth. -/
def descendantsWithin (tree : Tree) : Nat → Nat → List Nat
  | 0, _ => []
  | depth + 1, index =>
    (tree.childNodes index).flatMap fun child => child :: descendantsWithin tree depth child

/-- The elements inside an element, in document order. -/
def descendants (tree : Tree) (index : Nat) : List Nat :=
  (tree.descendantsWithin tree.nodes.size index).filter tree.isElement

/-- The text inside a node, down to a depth. -/
def textWithin (tree : Tree) : Nat → Nat → List Char
  | 0, _ => []
  | depth + 1, index =>
    (tree.childrenOf index).reverse.flatMap fun child =>
      match child with
      | .node inner => textWithin tree depth inner
      | .text chars => chars

def textOf (tree : Tree) (index : Nat) : List Char :=
  tree.textWithin tree.nodes.size index

end ScriptLint.Markup.Tree
