/-!
# Diagnostics

A diagnostic says what is wrong with one call of a script: how severe it is, which rule found it,
where the call stands, and what may help.
-/

namespace ScriptLint

/-- How severe a problem is, the least severe first. -/
inductive Severity where
  | info
  | warning
  | error
deriving DecidableEq, Repr

namespace Severity

/-- The number by which editors know a severity; it grows with the severity. -/
def level : Severity → Nat
  | info => 0
  | warning => 1
  | error => 2

instance : Ord Severity where
  compare left right := compare left.level right.level

def word : Severity → String
  | info => "info"
  | warning => "warning"
  | error => "error"

def ofWord? : String → Option Severity
  | "info" => some info
  | "warning" => some warning
  | "error" => some error
  | _ => none

end Severity

/-- The family of a diagnostic code. -/
inductive Category where
  | error
  | warning
  | info
deriving DecidableEq, Repr

namespace Category

def letter : Category → Char
  | error => 'E'
  | warning => 'W'
  | info => 'I'

def word : Category → String
  | error => "Error"
  | warning => "Warning"
  | info => "Info"

def ofWord? : String → Option Category
  | "Error" => some error
  | "Warning" => some warning
  | "Info" => some info
  | _ => none

end Category

/-- The code of a kind of problem. -/
structure DiagnosticCode where
  category : Category
  number : Nat
deriving DecidableEq, Repr

/-- The decimal digits of a number, filled up with zeros at the front to a least width. -/
def paddedDigits (width n : Nat) : String :=
  let digits := toString n
  String.ofList (List.replicate (width - digits.length) '0') ++ digits

namespace DiagnosticCode

/-- A code is shown as the letter of its family and its number with three digits or more. -/
def text (code : DiagnosticCode) : String :=
  String.ofList [code.category.letter] ++ paddedDigits 3 code.number

end DiagnosticCode

/-- A place in a script, both numbers counted from one, the column in bytes. -/
structure Location where
  line : Nat
  column : Nat
deriving DecidableEq, Repr

namespace Location

/-- The start of a script, for problems without a better place. -/
def start : Location :=
  ⟨1, 1⟩

/-- Places are compared by line, and within a line by column. -/
instance : Ord Location where
  compare left right := (compare left.line right.line).then (compare left.column right.column)

end Location

/-- A problem with one call. -/
structure Diagnostic where
  severity : Severity
  code : DiagnosticCode
  rule : String
  message : String
  location : Location
  notes : List String
  help : List String
deriving DecidableEq, Repr

end ScriptLint
