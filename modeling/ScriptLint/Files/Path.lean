/-!
# Paths

A path is a text in which slashes separate segments.  Some segments say nothing: empty ones, and
single dots that do not begin the path.  The other ones are its parts.  Paths are compared part by
part, so that two texts can be the same path.
-/

namespace ScriptLint

/-- A part of a path. -/
inductive PathPart where
  | root
  | here
  | up
  | name (text : String)
deriving DecidableEq, Repr

namespace PathPart

def rank : PathPart → Nat
  | root => 0
  | here => 1
  | up => 2
  | name _ => 3

/-- The name that a part is, if it is one. -/
def text : PathPart → String
  | name text => text
  | _ => ""

/-- Parts are ordered by kind, names among themselves by their characters. -/
instance : Ord PathPart where
  compare := compareLex (compareOn rank) (compareOn text)

end PathPart

namespace Path

def segments (path : String) : List String :=
  (path.toList.splitOn '/').map String.ofList

/-- The texts that slashes go between, as one text. -/
def ofSegments (segments : List String) : String :=
  "/".intercalate segments

def isAbsolute (path : String) : Bool :=
  path.startsWith "/"

/-- Whether a segment says nothing, unless it begins a path. -/
def isFiller (segment : String) : Bool :=
  segment.isEmpty || segment == "."

def innerPart? (segment : String) : Option PathPart :=
  if isFiller segment then none
  else if segment = ".." then some .up
  else some (.name segment)

def parts (path : String) : List PathPart :=
  match segments path with
  | [] => []
  | first :: rest =>
    let beginning : Option PathPart :=
      if isAbsolute path then some .root
      else if first = "." then some .here
      else innerPart? first
    beginning.toList ++ rest.filterMap innerPart?

def order (left right : String) : Ordering :=
  compare (parts left) (parts right)

/-- A path below another one.  An absolute path is below none. -/
def join (base child : String) : String :=
  if isAbsolute child then child
  else if base.isEmpty || base.endsWith "/" then base ++ child
  else base ++ "/" ++ child

/-- Segments without those at the end that say nothing. -/
def dropFiller (segments : List String) : List String :=
  (segments.reverse.dropWhile isFiller).reverse

/-- The path above a path, which has one part less, if there is a part that is not the root. -/
def parent? (path : String) : Option String :=
  match segments path with
  | [] => none
  | first :: rest =>
    match dropFiller rest with
    | [] => if first.isEmpty then none else some ""
    | inner =>
      match dropFiller inner.dropLast with
      | [] => some (if first.isEmpty then "/" else first)
      | above => some (ofSegments (first :: above))

/-- A path and a number of paths above it, as far as there are any. -/
def climb : Nat → String → List String
  | 0, path => [path]
  | steps + 1, path =>
    path ::
      match parent? path with
      | some above => climb steps above
      | none => []

/-- A path and all paths above it, upward. -/
def upward (path : String) : List String :=
  climb (parts path).length path

/-- The absolute path of a place, which is given by the names on the way from the root. -/
def ofPlace (place : List String) : String :=
  "/" ++ ofSegments place

/-- Whether a file name ends in a dot and the given letters, with something before the dot. -/
def hasExtension (extension fileName : String) : Bool :=
  fileName.endsWith ("." ++ extension) && fileName != "." ++ extension

end Path

end ScriptLint
