import ScriptLint.Diagnostic.Basic
import ScriptLint.MethodTable
import ScriptLint.Script.Call
import ScriptLint.Suggestion

/-!
# Rules

A rule judges one call of a tracked class by the method table of the class, which may be missing.
The three standing rules divide the undocumented calls among them: one has calls without a table,
one calls of unknown methods, and one calls with a wrong number of arguments.
-/

namespace ScriptLint

/-- A judgement on single calls. -/
structure Rule where
  name : String
  code : DiagnosticCode
  /-- How severe that is unless settings say otherwise. -/
  severity : Severity
  judge : CallSite → Option MethodTable → Option Diagnostic

namespace CallSite

def location (site : CallSite) : Location :=
  ⟨site.line, site.column⟩

end CallSite

namespace Rule

/-- The rule for calls of classes whose documentation is not at hand. -/
def docsUnavailable : Rule where
  name := "docs-unavailable"
  code := ⟨.warning, 1⟩
  severity := .warning
  judge site methods :=
    match methods with
    | some _ => none
    | none =>
      some {
        severity := .warning
        code := ⟨.warning, 1⟩
        rule := "docs-unavailable"
        message :=
          "API documentation not available for " ++ site.className ++
            " (cache may not be initialized)"
        location := site.location
        notes := []
        help := ["run `gsapi update` to populate the documentation cache"] }

/-- The remark on similar names that ends a message, if there are any. -/
def similarNames : List String → String
  | [] => ""
  | names => " (did you mean: " ++ ", ".intercalate names ++ "?)"

/-- The rule for calls of methods that are not documented.  It names up to so many documented ones
that are at least so similar. -/
def unknownMethod (limit : Nat) (threshold : Float) : Rule where
  name := "unknown-method"
  code := ⟨.error, 1⟩
  severity := .error
  judge site methods :=
    match methods with
    | none => none
    | some table =>
      if table.contains site.methodName then none
      else
        let similar : List String :=
          (suggest table.names site.methodName limit threshold).map Suggestion.name
        some {
          severity := .error
          code := ⟨.error, 1⟩
          rule := "unknown-method"
          message :=
            site.className ++ "." ++ site.methodName ++ " not found in API documentation" ++
              similarNames similar
          location := site.location
          notes := []
          help := similar.map fun name =>
            "did you mean `" ++ site.className ++ "." ++ name ++ "`?" }

/-- The rule for calls with a number of arguments that is not documented. -/
def arityMismatch : Rule where
  name := "arity-mismatch"
  code := ⟨.error, 2⟩
  severity := .error
  judge site methods :=
    match methods.bind fun table => table.arities? site.methodName with
    | none => none
    | some arities =>
      if arities.contains site.arity then none
      else
        some {
          severity := .error
          code := ⟨.error, 2⟩
          rule := "arity-mismatch"
          message :=
            "Invalid arity for " ++ site.className ++ "." ++ site.methodName ++ " -> " ++
              toString site.arity ++ " args (allowed: " ++ arities.listing ++ ")"
          location := site.location
          notes := ["argument counts are estimated by counting commas"]
          help := [] }

/-- The rules that every check applies, in their order. -/
def standing (limit : Nat) (threshold : Float) : List Rule :=
  [docsUnavailable, unknownMethod limit threshold, arityMismatch]

end Rule

end ScriptLint
