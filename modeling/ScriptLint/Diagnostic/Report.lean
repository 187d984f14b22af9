import ScriptLint.Diagnostic.Basic

/-!
# Rendering diagnostics

A diagnostic is shown on a terminal as a headline, its place, and a line for every note and every
help.  Editors take a flat message instead, in which the rule is always the same.
-/

namespace ScriptLint

namespace Diagnostic

def colourOf : Severity → String
  | .error => "31"
  | .warning => "33"
  | .info => "36"

/-- The word for a severity, in bold colour if colours are wanted. -/
def label (colour : Bool) (severity : Severity) : String :=
  if colour then "\x1b[1;" ++ colourOf severity ++ "m" ++ severity.word ++ "\x1b[0m"
  else severity.word

def render (colour : Bool) (file : String) (diagnostic : Diagnostic) : String :=
  label colour diagnostic.severity ++ "[" ++ diagnostic.code.text ++ "]: " ++
    diagnostic.message ++ "\n" ++
    "  --> " ++ file ++ ":" ++ toString diagnostic.location.line ++ ":" ++
    toString diagnostic.location.column ++ "\n" ++
    String.join (diagnostic.notes.map fun note => "   = note: " ++ note ++ "\n") ++
    String.join (diagnostic.help.map fun help => "   = help: " ++ help ++ "\n")

end Diagnostic

/-- The message of an editor. -/
structure LintMessage where
  ruleId : String
  message : String
  severity : Nat
  /-- The line, from one. -/
  line : Nat
  /-- The column, from one. -/
  column : Nat
deriving DecidableEq, Repr

namespace LintMessage

def sharedRule : String :=
  "openttd-gs/api-docs"

def ofDiagnostic (diagnostic : Diagnostic) : LintMessage :=
  ⟨sharedRule, diagnostic.message, diagnostic.severity.level, diagnostic.location.line,
    diagnostic.location.column⟩

end LintMessage

/-- The messages for the diagnostics of a file, in the same order. -/
def lintMessages (diagnostics : List Diagnostic) : List LintMessage :=
  diagnostics.map LintMessage.ofDiagnostic

end ScriptLint
