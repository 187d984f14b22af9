import ScriptLint.Ignore.Glob
import ScriptLint.Text.Blank

/-!
# Ignore rules

The lines of an ignore file.  A line is a glob for what is to be ignored, or after an exclamation
mark for what is not.  A glob with a slash in it is for paths below the directory of the file; any
other one is for names at any depth.  A slash at the end restricts a rule to directories.  Of
several rules for a path the last one counts.
-/

namespace ScriptLint

/-- What is to happen to a path. -/
inductive Verdict where
  | ignored
  | kept
deriving DecidableEq, Repr

/-- A rule of an ignore file. -/
structure IgnoreRule where
  pattern : Pattern
  verdict : Verdict
  directoriesOnly : Bool
deriving DecidableEq, Repr

/-- What is wrong with a line of an ignore file. -/
inductive IgnoreFault where
  /-- It is no text, and the lines after it cannot be told. -/
  | invalidText
  | glob (line : String) (fault : GlobFault)
deriving DecidableEq, Repr

namespace IgnoreFault

def message : IgnoreFault → String
  | invalidText => "stream did not contain valid UTF-8"
  | glob line fault => "error parsing glob '" ++ line ++ "': " ++ fault.message

/-- Whether a fault concerns the file and not what its lines say. -/
def isUnreadable : IgnoreFault → Bool
  | invalidText => true
  | glob _ _ => false

end IgnoreFault

namespace IgnoreRule

/-- A line without the blanks at its end, unless the last one is escaped. -/
def trimLine (line : List Char) : List Char :=
  if "\\ ".toList.isSuffixOf line then line else Text.trimEnd line

/-- A glob for names at any depth, if it has no slash and is not told to begin at the directory. -/
def anyDepth (isAnchored : Bool) (glob : List Char) : List Char :=
  if isAnchored || glob.contains '/' || glob == "**".toList then glob else "**/".toList ++ glob

/-- A glob for what is inside a directory, which is not for the directory itself. -/
def strictlyInside (glob : List Char) : List Char :=
  if "/**".toList.isSuffixOf glob then glob ++ "/*".toList else glob

/-- The rule of the rest of a line, after its mark. -/
def ofBody (verdict : Verdict) (isAnchored : Bool) (body : List Char) :
    Except GlobFault IgnoreRule :=
  let directoriesOnly := body.getLast? == some '/'
  let stem := if directoriesOnly then body.dropLast else body
  let glob := if directoriesOnly && stem.getLast? == some '\\' then stem.dropLast else stem
  match Glob.pattern (strictlyInside (anyDepth isAnchored glob)) with
  | .ok pattern => .ok ⟨pattern, verdict, directoriesOnly⟩
  | .error fault => .error fault

/-- The rule of a line that is no comment and not blank. -/
def ofMarked : List Char → Except GlobFault IgnoreRule
  | '\\' :: '!' :: rest => ofBody .ignored false ('!' :: rest)
  | '\\' :: '#' :: rest => ofBody .ignored false ('#' :: rest)
  | '!' :: '/' :: rest => ofBody .kept true rest
  | '!' :: rest => ofBody .kept false rest
  | '/' :: rest => ofBody .ignored true rest
  | line => ofBody .ignored false line

/-- The rule of a line, if it has one. -/
def ofLine (line : List Char) : Except IgnoreFault (Option IgnoreRule) :=
  if line.head? = some '#' then .ok none
  else
    match trimLine line with
    | [] => .ok none
    | trimmed =>
      match ofMarked trimmed with
      | .ok rule => .ok (some rule)
      | .error fault => .error (.glob (String.ofList trimmed) fault)

def concerns (rule : IgnoreRule) (path : String) (isDirectory : Bool) : Bool :=
  (isDirectory || !rule.directoriesOnly) && rule.pattern.accepts path.toUTF8.toList

def judge (rules : List IgnoreRule) (path : String) (isDirectory : Bool) : Option Verdict :=
  (rules.reverse.find? fun rule => rule.concerns path isDirectory).map verdict

end IgnoreRule

/-- An ignore file. -/
structure IgnoreFile where
  rules : List IgnoreRule
  /-- The numbers of the lines that are wrong, with what is wrong. -/
  faults : List (Nat × IgnoreFault)
deriving DecidableEq, Repr

namespace IgnoreFile

/-- The file without lines. -/
def blank : IgnoreFile :=
  ⟨[], []⟩

/-- The lines of a file, without the ends of lines.  The last line need not have one. -/
def lines (content : List UInt8) : List (List UInt8) :=
  let pieces := content.splitOn 10
  let ended := pieces.dropLast.map fun line =>
    if line.getLast? = some 13 then line.dropLast else line
  let last := pieces.getLastD []
  if last.isEmpty then ended else ended ++ [last]

/-- A text without the marks of byte order at its front. -/
def dropMarks (chars : List Char) : List Char :=
  chars.dropWhile (· == '\ufeff')

/-- Reads lines, of which the first one has the given number. -/
def readLines : Nat → List (List UInt8) → IgnoreFile
  | _, [] => blank
  | number, line :: rest =>
    match String.fromUTF8? ⟨line.toArray⟩ with
    | none => ⟨[], [(number, .invalidText)]⟩
    | some text =>
      let later := readLines (number + 1) rest
      match IgnoreRule.ofLine (if number = 1 then dropMarks text.toList else text.toList) with
      | .ok none => later
      | .ok (some rule) => { later with rules := rule :: later.rules }
      | .error fault => { later with faults := (number, fault) :: later.faults }

def read (content : ByteArray) : IgnoreFile :=
  readLines 1 (lines content.toList)

/-- What is to be told about a file at a path.  That it cannot be read is passed over where nothing
else is wrong. -/
def complaints (file : IgnoreFile) (path : String) : List String :=
  match file.faults with
  | [(_, fault)] =>
    if fault.isUnreadable then []
    else file.faults.map fun (number, fault) =>
      path ++ ": line " ++ toString number ++ ": " ++ fault.message
  | faults => faults.map fun (number, fault) =>
      path ++ ": line " ++ toString number ++ ": " ++ fault.message

end IgnoreFile

end ScriptLint
