import ScriptLint.Files.Tree
import ScriptLint.Ignore.Rules

/-!
# Ignoring below directories

Which entries of a directory and of those below it are ignored.  Every directory from the root down
to an entry may say so in three files, and the user in one for all directories.  The files of one
kind are asked from the nearest directory upward, and the kinds one after the other.  What no file
speaks of is ignored if its name begins with a dot.
-/

namespace ScriptLint

/-- The kinds of ignore files, in the order in which they are asked. -/
inductive IgnoreKind where
  | general
  | repository
  /-- For what one copy of the repository leaves out. -/
  | privateCopy
deriving DecidableEq, Repr

namespace IgnoreKind

def all : List IgnoreKind :=
  [general, repository, privateCopy]

def fileName : IgnoreKind → String
  | general => ".ignore"
  | repository => ".gitignore"
  | privateCopy => ".git/info/exclude"

end IgnoreKind

/-- The ignore files of a directory. -/
structure IgnoreLevel where
  place : Place
  file : IgnoreKind → IgnoreFile

namespace IgnoreLevel

/-- The ignore file at a path, which may not be there. -/
def readFile (tree : FileTree) (here : Place) (path : String) : IgnoreFile :=
  match tree.readBytes here path with
  | .ok content => .read content
  | .error _ => .blank

def ofPlace (tree : FileTree) (place : Place) : IgnoreLevel :=
  let general := readFile tree place IgnoreKind.general.fileName
  let repository := readFile tree place IgnoreKind.repository.fileName
  let privateCopy := readFile tree place IgnoreKind.privateCopy.fileName
  ⟨place, fun
    | .general => general
    | .repository => repository
    | .privateCopy => privateCopy⟩

/-- What the files of one kind say about an entry, from the nearest directory upward. -/
def judgeKind (levels : List IgnoreLevel) (kind : IgnoreKind) (place : Place)
    (isDirectory : Bool) : Option Verdict :=
  levels.findSome? fun level =>
    IgnoreRule.judge (level.file kind).rules
      (Path.ofSegments (place.drop level.place.length)) isDirectory

def judge (levels : List IgnoreLevel) (place : Place) (isDirectory : Bool) : Option Verdict :=
  IgnoreKind.all.findSome? fun kind => judgeKind levels kind place isDirectory

def complaints (level : IgnoreLevel) : List String :=
  IgnoreKind.all.flatMap fun kind =>
    (level.file kind).complaints (Path.join (Path.ofPlace level.place) kind.fileName)

end IgnoreLevel

/-- The directories above a place, from the nearest one up to the root. -/
def FileTree.placesAbove (place : Place) : List Place :=
  (List.range place.length).reverse.map fun count => place.take count

/-- What is ignored below a directory. -/
structure IgnoreView where
  /-- The ignore files of the directory, those above it and those below it. -/
  levels : List IgnoreLevel
  personal : List IgnoreRule
  /-- The working directory, from which the rules of the user are meant. -/
  workingDirectory : String

namespace IgnoreView

/-- A path as the rules of the user see it: from the working directory if it is below that. -/
def personalPath (workingDirectory path : String) : String :=
  let chars := path.toList
  let plain := if "./".toList.isPrefixOf chars then chars.drop 2 else chars
  let prefixed := workingDirectory.toList
  if plain.contains '/' ∧ prefixed.isPrefixOf plain then
    let inside := plain.drop prefixed.length
    String.ofList (if inside.head? = some '/' then inside.drop 1 else inside)
  else String.ofList plain

/-- Whether an entry of a directory is seen, given its place and its path. -/
def sees (view : IgnoreView) (place : Place) (path : String) (isDirectory : Bool) : Bool :=
  let above := view.levels.filter fun level =>
    level.place.isPrefixOf place && level.place != place
  match (IgnoreLevel.judge above place isDirectory).or
      (IgnoreRule.judge view.personal (personalPath view.workingDirectory path) isDirectory) with
  | some .ignored => false
  | some .kept => true
  | none => !(place.getLastD "").startsWith "."

end IgnoreView

end ScriptLint
