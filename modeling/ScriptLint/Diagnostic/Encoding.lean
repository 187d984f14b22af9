import ScriptLint.Diagnostic.Report
import ScriptLint.Json.Decoder

/-!
# Diagnostics as JSON

Every kind of value has an encoder and a decoder beside it.  Decoders take all fields of a record,
and numbers up to the width that the field is given: two bytes for a code, four for a line or a
column, one for a level.
-/

namespace ScriptLint

open Json

namespace Severity

def encode (severity : Severity) : Json :=
  Json.ofString severity.word

def decode? (value : Json) : Option Severity :=
  value.asWord?.bind ofWord?

end Severity

namespace DiagnosticCode

def encode (code : DiagnosticCode) : Json :=
  Json.ofMembers
    [("category", Json.ofString code.category.word), ("number", natural code.number)]

def decode? (value : Json) : Option DiagnosticCode := do
  match ← value.asRecord? ["category", "number"] with
  | [some category, some number] =>
    return ⟨← category.asWord?.bind Category.ofWord?, ← number.asNatBelow? (Nat.pow 2 16)⟩
  | _ => none

end DiagnosticCode

namespace Location

def encode (location : Location) : Json :=
  Json.ofMembers [("line", natural location.line), ("column", natural location.column)]

def decode? (value : Json) : Option Location := do
  match ← value.asRecord? ["line", "column"] with
  | [some line, some column] =>
    return ⟨← line.asNatBelow? (Nat.pow 2 32), ← column.asNatBelow? (Nat.pow 2 32)⟩
  | _ => none

end Location

namespace Diagnostic

def fieldNames : List String :=
  ["severity", "code", "rule", "message", "location", "notes", "help"]

def encode (diagnostic : Diagnostic) : Json :=
  Json.ofMembers
    [("severity", diagnostic.severity.encode), ("code", diagnostic.code.encode),
      ("rule", Json.ofString diagnostic.rule), ("message", Json.ofString diagnostic.message),
      ("location", diagnostic.location.encode), ("notes", Json.ofStrings diagnostic.notes),
      ("help", Json.ofStrings diagnostic.help)]

def decode? (value : Json) : Option Diagnostic := do
  match ← value.asRecord? fieldNames with
  | [some severity, some code, some rule, some message, some location, some notes, some help] =>
    return {
      severity := ← Severity.decode? severity
      code := ← DiagnosticCode.decode? code
      rule := ← rule.asText?
      message := ← message.asText?
      location := ← Location.decode? location
      notes := ← notes.asListOf? asText?
      help := ← help.asListOf? asText? }
  | _ => none

end Diagnostic

namespace LintMessage

def fieldNames : List String :=
  ["ruleId", "message", "severity", "line", "column"]

def encode (message : LintMessage) : Json :=
  Json.ofMembers
    [("ruleId", Json.ofString message.ruleId), ("message", Json.ofString message.message),
      ("severity", natural message.severity), ("line", natural message.line),
      ("column", natural message.column)]

def decode? (value : Json) : Option LintMessage := do
  match ← value.asRecord? fieldNames with
  | [some ruleId, some message, some severity, some line, some column] =>
    return {
      ruleId := ← ruleId.asText?
      message := ← message.asText?
      severity := ← severity.asNatBelow? (Nat.pow 2 8)
      line := ← line.asNatBelow? (Nat.pow 2 32)
      column := ← column.asNatBelow? (Nat.pow 2 32) }
  | _ => none

end LintMessage

end ScriptLint
