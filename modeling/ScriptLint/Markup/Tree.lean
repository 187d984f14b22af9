import ScriptLint.Markup.Element
import ScriptLint.Markup.Token

/-!
# Trees of nodes

A tree under construction is a store of nodes in the order of their creation.  A node knows its
parent and its children, the latest first; texts stand among the children and are no nodes of
their own.  A node without a parent is the root or has been taken out of the tree.
-/

namespace ScriptLint.Markup

/-- What a node is. -/
inductive NodeKind where
  | document
  | fragment
  | element (name : ElementName) (attributes : List Attribute)
deriving DecidableEq, Repr

/-- A child of a node. -/
inductive Child where
  | node (index : Nat)
  | text (chars : List Char)
deriving DecidableEq, Repr

/-- A node. -/
structure Node where
  kind : NodeKind
  parent : Option Nat
  /-- Its children, the latest first. -/
  children : List Child
deriving DecidableEq, Repr

/-- Nodes in the order of their creation; the first one is the root. -/
structure Tree where
  nodes : Array Node
deriving Repr

namespace Tree

/-- The tree that is only a root. -/
def root : Tree :=
  ⟨#[⟨.document, none, []⟩]⟩

def node? (tree : Tree) (index : Nat) : Option Node :=
  tree.nodes[index]?

def modify (tree : Tree) (index : Nat) (change : Node → Node) : Tree :=
  ⟨tree.nodes.modify index change⟩

/-- Adds a node without a parent: its number, and the tree. -/
def create (tree : Tree) (kind : NodeKind) : Nat × Tree :=
  (tree.nodes.size, ⟨tree.nodes.push ⟨kind, none, []⟩⟩)

def parent? (tree : Tree) (index : Nat) : Option Nat :=
  (tree.node? index).bind Node.parent

/-- The children of a node, the latest first. -/
def childrenOf (tree : Tree) (index : Nat) : List Child :=
  ((tree.node? index).map Node.children).getD []

def detach (tree : Tree) (index : Nat) : Tree :=
  match tree.parent? index with
  | none => tree
  | some parent =>
    (tree.modify parent fun node =>
      { node with children := node.children.filter (· != .node index) }).modify index fun node =>
        { node with parent := none }

/-- Makes a node the parent of a child, if the child is a node. -/
def adopt (tree : Tree) (parent : Nat) : Child → Tree
  | .node index => tree.modify index fun node => { node with parent := some parent }
  | .text _ => tree

/-- Takes a child out of its parent, if it is a node. -/
def free (tree : Tree) : Child → Tree
  | .node index => tree.detach index
  | .text _ => tree

def append (tree : Tree) (parent : Nat) (child : Child) : Tree :=
  ((tree.free child).modify parent fun node =>
    { node with children := child :: node.children }).adopt parent child

/-- Puts a child before another one in a list with the latest first. -/
def insertBefore (child sibling : Child) : List Child → List Child
  | [] => []
  | first :: rest =>
    if first = sibling then first :: child :: rest
    else first :: insertBefore child sibling rest

def appendBefore (tree : Tree) (sibling : Nat) (child : Child) : Tree :=
  let freed := tree.free child
  match freed.parent? sibling with
  | none => freed
  | some parent =>
    (freed.modify parent fun node =>
      { node with children := insertBefore child (.node sibling) node.children }).adopt parent child

/-- Moves all children of a node behind those of another one. -/
def moveChildren (tree : Tree) (source target : Nat) : Tree :=
  (tree.childrenOf source).reverse.foldl (fun moved child =>
    match child with
    | .node _ => moved.append target child
    | .text _ =>
      moved.modify target fun node => { node with children := child :: node.children })
    (tree.modify source fun node =>
      { node with children := node.children.filter fun child => child matches .node _ })

/-- Adds the attributes that a node does not have. -/
def addAttributes (tree : Tree) (index : Nat) (attributes : List Attribute) : Tree :=
  tree.modify index fun node =>
    match node.kind with
    | .element name known =>
      let missing := attributes.filter fun entry => !known.any fun old => old.name == entry.name
      { node with kind := .element name (known ++ missing) }
    | _ => node

end Tree

end ScriptLint.Markup
