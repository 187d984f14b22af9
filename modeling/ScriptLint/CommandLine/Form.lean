/-!
# Forms of command lines

What may stand on a command line: options, which begin with dashes and may take a value, and
operands.  A command line that does not have its form has a fault.
-/

namespace ScriptLint.CommandLine

/-- What the options are about. -/
inductive OptionName where
  | help
  | version
  | verbose
  | colour
  | settingsFile
  | cacheDirectory
  /-- Fetch pages even if the cache is fresh. -/
  | force
  | keepGoing
  | format
  | update
  | allow
  | deny
deriving DecidableEq, Repr

/-- What values are accepted. -/
inductive ValueKind where
  | text
  /-- Any text but the empty one. -/
  | path
  | choice (words : List String)
deriving DecidableEq, Repr

/-- The form of an option. -/
structure OptionForm where
  name : OptionName
  long : String
  /-- The letter after one dash, if there is one. -/
  short : Option Char
  /-- The name and the kind of its value, if it takes one. -/
  value : Option (String × ValueKind)
  /-- Whether it may be given more than once. -/
  mayRepeat : Bool
deriving DecidableEq, Repr

namespace OptionForm

def display (form : OptionForm) : String :=
  match form.value with
  | some (valueName, _) => "--" ++ form.long ++ " <" ++ valueName ++ ">"
  | none => "--" ++ form.long

end OptionForm

/-- The operands of a command. -/
inductive OperandForm where
  | none
  /-- It takes exactly one. -/
  | one (display : String) (kind : ValueKind)
  | many (display : String) (kind : ValueKind)
deriving DecidableEq, Repr

namespace OperandForm

def display : OperandForm → String
  | none => ""
  | one display _ => display
  | many display _ => display

def kind : OperandForm → ValueKind
  | none => .text
  | one _ kind => kind
  | many _ kind => kind

end OperandForm

/-- The form of a command line. -/
structure CommandForm where
  options : List OptionForm
  operands : OperandForm
  /-- The words for commands, which begin a command line of their own. -/
  commands : List String
deriving DecidableEq, Repr

namespace CommandForm

def long? (form : CommandForm) (word : String) : Option OptionForm :=
  form.options.find? fun option => option.long == word

/-- The option with a letter after one dash. -/
def short? (form : CommandForm) (letter : Char) : Option OptionForm :=
  form.options.find? fun option => option.short == some letter

end CommandForm

/-- What is wrong with a command line. -/
inductive CommandLineFault where
  /-- An argument is not expected. -/
  | unexpected (argument : String)
  | unknownCommand (word : String)
  | missingValue (display : String)
  /-- A value is not accepted. -/
  | invalidValue (value display : String)
  /-- An option that takes no value has one. -/
  | superfluousValue (value display : String)
  /-- An option is there more than once. -/
  | repeated (display : String)
  | missingOperand
  | missingCommand
  /-- There is nothing at all. -/
  | nothing
deriving DecidableEq, Repr

namespace CommandLineFault

def message (program summary : String) : CommandLineFault → String
  | unexpected argument => "error: unexpected argument '" ++ argument ++ "' found"
  | unknownCommand word => "error: unrecognized subcommand '" ++ word ++ "'"
  | missingValue display =>
    "error: a value is required for '" ++ display ++ "' but none was supplied"
  | invalidValue value display =>
    "error: invalid value '" ++ value ++ "' for '" ++ display ++ "'"
  | superfluousValue value display =>
    "error: unexpected value '" ++ value ++ "' for '" ++ display ++
      "' found; no more were expected"
  | repeated display =>
    "error: the argument '" ++ display ++ "' cannot be used multiple times"
  | missingOperand => "error: the following required arguments were not provided:"
  | missingCommand => "error: '" ++ program ++ "' requires a subcommand but one was not provided"
  | nothing => summary

end CommandLineFault

end ScriptLint.CommandLine
