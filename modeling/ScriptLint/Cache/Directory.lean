import ScriptLint.FileError

/-!
# The cache directory

One file for every class, named after the class, in one directory.  The directory need not exist,
and its path may be taken by a plain file; a class's path may be taken by a directory.
-/

namespace ScriptLint

/-- What a name in the cache directory leads to. -/
inductive CacheNode where
  | file (content : ByteArray)
  | directory

/-- What the path of the cache directory leads to. -/
inductive CacheDirectory where
  | absent
  /-- A plain file, so that the directory cannot be made. -/
  | blocked
  /-- The directory, with the names in it. -/
  | present (nodes : List (String × CacheNode))

namespace CacheDirectory

def fileName (className : String) : String :=
  className ++ ".json"

def node? (cache : CacheDirectory) (name : String) : Option CacheNode :=
  match cache with
  | present nodes => nodes.lookup name
  | _ => none

/-- The names in the directory, in the order in which they came. -/
def names : CacheDirectory → List String
  | present nodes => nodes.map Prod.fst
  | _ => []

/-- Makes the directory unless it is there. -/
def create : CacheDirectory → Except FileError CacheDirectory
  | absent => .ok (present [])
  | blocked => .error .alreadyExists
  | present nodes => .ok (present nodes)

/-- A list of names in which one name leads to a given node. -/
def setNode (name : String) (node : CacheNode) :
    List (String × CacheNode) → List (String × CacheNode)
  | [] => [(name, node)]
  | (first, known) :: rest =>
    if first = name then (name, node) :: rest else (first, known) :: setNode name node rest

/-- Makes a directory under a name, in a directory that is made first if it is not there. -/
def addDirectory (cache : CacheDirectory) (name : String) : CacheDirectory :=
  match cache with
  | absent => present [(name, .directory)]
  | blocked => blocked
  | present nodes => present (setNode name .directory nodes)

/-- The directory without a name. -/
def remove (cache : CacheDirectory) (name : String) : CacheDirectory :=
  match cache with
  | present nodes => present (nodes.filter fun entry => entry.1 != name)
  | other => other

/-- Puts bytes into a file of a directory that is there.  A name with a slash in it leads into
another directory, and no such directory is ever made. -/
def writeFile (cache : CacheDirectory) (name : String) (content : ByteArray) :
    Except FileError CacheDirectory :=
  match cache with
  | absent => .error .notFound
  | blocked => .error .notADirectory
  | present nodes =>
    match nodes.lookup name with
    | some .directory => .error .isADirectory
    | _ =>
      if name.contains '/' then .error .notFound
      else .ok (present (setNode name (.file content) nodes))

def readText (cache : CacheDirectory) (name : String) : Except FileError String :=
  match cache with
  | absent => .error .notFound
  | blocked => .error .notADirectory
  | present nodes =>
    match nodes.lookup name with
    | none => .error .notFound
    | some .directory => .error .isADirectory
    | some (.file content) =>
      match String.fromUTF8? content with
      | some text => .ok text
      | none => .error .invalidText

end CacheDirectory

end ScriptLint
