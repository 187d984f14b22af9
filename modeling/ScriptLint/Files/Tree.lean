import ScriptLint.FileError
import ScriptLint.Files.Path

/-!
# File trees

What is in a file system: at every place a file, a directory or a link, where a place is the list
of the names on the way from the root.  A path leads to a place step by step, through the links on
its way, of which there may be forty.
-/

namespace ScriptLint

/-- What is at a place. -/
inductive FileNode where
  | file (content : ByteArray)
  | directory
  | link (target : String)

abbrev Place := List String

/-- The nodes of a file system.  The root is always a directory. -/
structure FileTree where
  nodes : List (Place × FileNode)

namespace FileTree

/-- The tree in which there is only the root. -/
def empty : FileTree :=
  ⟨[]⟩

def node? (tree : FileTree) (place : Place) : Option FileNode :=
  if place.isEmpty then some .directory else tree.nodes.lookup place

/-- Nodes of which one place has a given node. -/
def setNode (place : Place) (node : FileNode) :
    List (Place × FileNode) → List (Place × FileNode)
  | [] => [(place, node)]
  | (first, known) :: rest =>
    if first = place then (place, node) :: rest else (first, known) :: setNode place node rest

def set (tree : FileTree) (place : Place) (node : FileNode) : FileTree :=
  ⟨setNode place node tree.nodes⟩

/-- The nodes below a place, by the names on the way from there. -/
def below (tree : FileTree) (place : Place) : List (Place × FileNode) :=
  tree.nodes.filterMap fun (known, node) =>
    if place.isPrefixOf known ∧ known ≠ place then some (known.drop place.length, node) else none

def children (tree : FileTree) (place : Place) : List (String × FileNode) :=
  (tree.below place).filterMap fun
    | ([name], node) => some (name, node)
    | _ => none

/-- Where a path leads: a place, and what is there, which is no link. -/
structure Arrival where
  place : Place
  node : Option FileNode

def linkLimit : Nat :=
  40

/-- Follows segments from a directory, with a number of links still allowed.  Only the last segment
may name nothing. -/
def follow (tree : FileTree) (links : Nat) (here : Place) (segments : List String) :
    Except FileError Arrival :=
  match segments with
  | [] => .ok ⟨here, some .directory⟩
  | segment :: rest =>
    if Path.isFiller segment then follow tree links here rest
    else if segment = ".." then follow tree links here.dropLast rest
    else
      let there := here ++ [segment]
      match tree.node? there with
      | none => if rest.isEmpty then .ok ⟨there, none⟩ else .error .notFound
      | some (.file content) =>
        if rest.isEmpty then .ok ⟨there, some (.file content)⟩ else .error .notADirectory
      | some .directory => follow tree links there rest
      | some (.link target) =>
        match links with
        | 0 => .error .linkLoop
        | fewer + 1 =>
          follow tree fewer (if Path.isAbsolute target then [] else here)
            (Path.segments target ++ rest)
termination_by (links, segments.length)

/-- Where a path leads, from a directory. -/
def arrive (tree : FileTree) (here : Place) (path : String) : Except FileError Arrival :=
  if path.isEmpty then .error .notFound
  else follow tree linkLimit (if Path.isAbsolute path then [] else here) (Path.segments path)

def find? (tree : FileTree) (here : Place) (path : String) : Option FileNode :=
  ((tree.arrive here path).toOption).bind Arrival.node

def isDirectory (tree : FileTree) (here : Place) (path : String) : Bool :=
  match tree.find? here path with
  | some .directory => true
  | _ => false

def isFile (tree : FileTree) (here : Place) (path : String) : Bool :=
  match tree.find? here path with
  | some (.file _) => true
  | _ => false

def readBytes (tree : FileTree) (here : Place) (path : String) : Except FileError ByteArray :=
  match tree.arrive here path with
  | .error cause => .error cause
  | .ok arrival =>
    match arrival.node with
    | some (.file content) => .ok content
    | some _ => .error .isADirectory
    | none => .error .notFound

def readText (tree : FileTree) (here : Place) (path : String) : Except FileError String :=
  match tree.readBytes here path with
  | .error cause => .error cause
  | .ok content =>
    match String.fromUTF8? content with
    | some text => .ok text
    | none => .error .invalidText

/-- Makes the directories on the way of segments that are not there. -/
def createAlong (tree : FileTree) (here : Place) :
    List String → Except FileError FileTree
  | [] => .ok tree
  | segment :: rest =>
    match tree.follow linkLimit here [segment] with
    | .error cause => .error cause
    | .ok arrival =>
      match arrival.node with
      | some .directory => createAlong tree arrival.place rest
      | some _ => .error (if rest.isEmpty then .alreadyExists else .notADirectory)
      | none =>
        if arrival.place = here ++ [segment] ∧ (tree.node? arrival.place).isNone then
          createAlong (tree.set arrival.place .directory) arrival.place rest
        else .error .alreadyExists

/-- Makes a directory and those above it, as far as they are not there. -/
def createDirectories (tree : FileTree) (here : Place) (path : String) :
    Except FileError FileTree :=
  tree.createAlong (if Path.isAbsolute path then [] else here) (Path.segments path)

/-- Puts bytes into a file, in a directory that is there. -/
def writeFile (tree : FileTree) (here : Place) (path : String) (content : ByteArray) :
    Except FileError FileTree :=
  match tree.arrive here path with
  | .error cause => .error cause
  | .ok arrival =>
    match arrival.node with
    | some .directory => .error .isADirectory
    | _ => .ok (tree.set arrival.place (.file content))

/-- The tree without a place and all below it. -/
def remove (tree : FileTree) (place : Place) : FileTree :=
  ⟨tree.nodes.filter fun (known, _) => !place.isPrefixOf known⟩

end FileTree

end ScriptLint
