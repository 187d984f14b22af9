import ScriptLint.Ignore.Levels

/-!
# Personal ignore rules

The file with the rules that a user has for all directories.  The settings of the version control
system may name it; otherwise it has a standard path in the home directory.
-/

namespace ScriptLint

namespace PersonalIgnore

/-- The files that may name the file of rules, below the home directory, in the order in which they
are asked. -/
def settingsFiles : List String :=
  [".gitconfig", ".config/git/config"]

/-- The path of the file of rules below the home directory, unless another one is named. -/
def standardFile : String :=
  ".config/git/ignore"

def isBlank (byte : UInt8) : Bool :=
  byte == 32 || (9 ≤ byte && byte ≤ 13)

def skipBlanks (bytes : List UInt8) : List UInt8 :=
  bytes.dropWhile isBlank

/-- Whether a line can end here, blanks and not more than one quote apart. -/
def endsLine (bytes : List UInt8) : Bool :=
  let reaches (rest : List UInt8) : Bool :=
    (rest.takeWhile isBlank).contains 10 || (skipBlanks rest).isEmpty
  reaches bytes ||
    match skipBlanks bytes with
    | 34 :: rest => reaches rest
    | _ => false

/-- The shortest value without blanks, of at least one byte, after which a line can end. -/
def shortestValue : List UInt8 → Option (List UInt8)
  | [] => none
  | byte :: rest =>
    if isBlank byte then none
    else if endsLine rest then some [byte]
    else (shortestValue rest).map (byte :: ·)

/-- The value after an equals sign, which may stand in quotes. -/
def value? (bytes : List UInt8) : Option (List UInt8) :=
  let start := skipBlanks bytes
  match start with
  | 34 :: rest => (shortestValue (skipBlanks rest)).or (shortestValue start)
  | _ => shortestValue start

/-- The rest of a text after a word in small letters, which may have capitals in the text. -/
def afterWord? : List UInt8 → List UInt8 → Option (List UInt8)
  | [], rest => some rest
  | _ :: _, [] => none
  | letter :: word, byte :: rest =>
    if byte = letter ∨ (65 ≤ byte ∧ byte ≤ 90 ∧ byte + 32 = letter) then afterWord? word rest
    else none

def namedByLine? (line : List UInt8) : Option (List UInt8) :=
  match (afterWord? "excludesfile".toUTF8.toList (skipBlanks line)).map skipBlanks with
  | some (61 :: rest) => value? rest
  | _ => none

/-- The file that a line names, looking from a byte on that may be the first one of its line. -/
def namedFrom? : Bool → List UInt8 → Option (List UInt8)
  | _, [] => none
  | isStart, byte :: rest =>
    match if isStart then namedByLine? (byte :: rest) else none with
    | some value => some value
    | none => namedFrom? (byte == 10) rest

def named? (bytes : List UInt8) : Option (List UInt8) :=
  namedFrom? true bytes

def expandHome (home path : String) : String :=
  String.ofList (path.toList.flatMap fun c => if c = '~' then home.toList else [c])

def path (tree : FileTree) (here : Place) (home : String) : String :=
  let named := settingsFiles.findSome? fun file =>
    (tree.readBytes here (Path.join home file)).toOption.bind fun content =>
      (named? content.toList).bind fun value => String.fromUTF8? ⟨value.toArray⟩
  match named with
  | some file => expandHome home file
  | none => Path.join home standardFile

def rules (tree : FileTree) (here : Place) (home : String) : List IgnoreRule :=
  (IgnoreLevel.readFile tree here (path tree here home)).rules

end PersonalIgnore

end ScriptLint
