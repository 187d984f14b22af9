import ScriptLint.Ignore.Personal

/-!
# Finding scripts

The scripts among given paths: every file that is given itself, and in a directory every file with
the extension of scripts that is not ignored.  They are sorted as paths, and each path is there
once.
-/

namespace ScriptLint

/-- Why scripts could not be found. -/
inductive DiscoveryError where
  /-- A given path leads to nothing. -/
  | missing (path : String)
  | badIgnoreFiles (complaints : List String)
deriving DecidableEq, Repr

namespace DiscoveryError

def message : DiscoveryError → String
  | missing path => "no such file or directory: " ++ path
  | badIgnoreFiles complaints => "\n".intercalate complaints

end DiscoveryError

namespace Discovery

def extension : String :=
  "nut"

/-- The path of an entry of a directory, by the names on the way to it. -/
def joinNames (directory : String) (names : Place) : String :=
  names.foldl Path.join directory

def isReached (view : IgnoreView) (directory : String) (place names : Place) : Bool :=
  (List.range names.length).all fun index =>
    let way := names.take (index + 1)
    view.sees (place ++ way) (joinNames directory way) (decide (index + 1 < names.length))

def viewOf (tree : FileTree) (here : Place) (home : String) (place : Place) : IgnoreView :=
  let inside := (tree.below place).filterMap fun
    | (names, .directory) => some (place ++ names)
    | _ => none
  let places := inside ++ place :: FileTree.placesAbove place
  let nearestFirst := places.mergeSort fun left right => decide (right.length ≤ left.length)
  ⟨nearestFirst.map (IgnoreLevel.ofPlace tree), PersonalIgnore.rules tree here home,
    Path.ofPlace here⟩

/-- The scripts in a directory.  What is wrong with the ignore files above it must be mended first.
A dash is no directory to look into. -/
def scriptsIn (tree : FileTree) (here : Place) (home directory : String) :
    Except DiscoveryError (List String) :=
  if Path.parts directory = [.name "-"] then .ok []
  else
    match tree.arrive here directory with
    | .error _ => .error (.missing directory)
    | .ok arrival =>
      let place := arrival.place
      let above := (FileTree.placesAbove place).reverse.map (IgnoreLevel.ofPlace tree)
      match above.flatMap IgnoreLevel.complaints with
      | [] =>
        let view := viewOf tree here home place
        .ok <| (tree.below place).filterMap fun (names, node) =>
          match node with
          | .file _ =>
            if Path.hasExtension extension (names.getLastD "") &&
                isReached view directory place names then
              some (joinNames directory names)
            else none
          | _ => none
      | complaints => .error (.badIgnoreFiles complaints)

/-- The files that paths stand for, given what is found in directories. -/
def collect (tree : FileTree) (here : Place)
    (search : String → Except DiscoveryError (List String)) :
    List String → Except DiscoveryError (List String)
  | [] => .ok []
  | path :: rest =>
    if tree.isDirectory here path then
      match search path with
      | .error failure => .error failure
      | .ok found => (collect tree here search rest).map (found ++ ·)
    else if tree.isFile here path then (collect tree here search rest).map (path :: ·)
    else .error (.missing path)

/-- The paths of a list that differ from the one before them. -/
def dropRepeats (last : String) : List String → List String
  | [] => []
  | path :: rest =>
    if Path.parts path = Path.parts last then dropRepeats last rest
    else path :: dropRepeats path rest

/-- Paths in order, each of them once. -/
def sortPaths (paths : List String) : List String :=
  match paths.mergeSort fun left right => (Path.order left right).isLE with
  | [] => []
  | first :: rest => first :: dropRepeats first rest

/-- The files to check among given paths, given what is found in directories. -/
def discover (tree : FileTree) (here : Place)
    (search : String → Except DiscoveryError (List String)) (paths : List String) :
    Except DiscoveryError (List String) :=
  (collect tree here search paths).map sortPaths

def scripts (tree : FileTree) (here : Place) (home : String) (paths : List String) :
    Except DiscoveryError (List String) :=
  discover tree here (scriptsIn tree here home) paths

end Discovery

end ScriptLint
