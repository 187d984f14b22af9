import ScriptLint.Settings.Basic
import ScriptLint.Toml.Reader

/-!
# Reading settings

The settings file has three tables, of which each and each of whose keys may be missing.  Unknown
keys are passed over.  A table may also be written as the list of its values in order.
-/

namespace ScriptLint

namespace Toml.Value

/-- The values of a table for the given keys.  A list gives them in order; a moment is a table
without known keys. -/
def fields? (keys : List String) : Value → Option (List (Option Value))
  | table _ entries => some (keys.map fun key => List.lookup key entries)
  | braces entries => some (keys.map fun key => List.lookup key entries)
  | list items => some ((List.range keys.length).map fun index => items[index]?)
  | tables items =>
    some ((List.range keys.length).map fun index => items[index]?.map (table .stated))
  | moment => some (keys.map fun _ => none)
  | _ => none

def asText? : Value → Option String
  | text value => some value
  | _ => none

def asTexts? : Value → Option (List String)
  | list items => items.mapM asText?
  | _ => none

def asNat? : Value → Option Nat
  | integer value => if 0 ≤ value then some value.toNat else none
  | _ => none

/-- A number, which may be an integer. -/
def asNumber? : Value → Option Float
  | number value => some value
  | integer value => some (Float.ofInt value)
  | _ => none

/-- A decoded value, or what stands for a missing one. -/
def orStandard {α : Type} (standard : α) (decode : Value → Option α) : Option Value → Option α
  | some value => decode value
  | none => some standard

end Toml.Value

namespace Settings

open Toml.Value

def decodeDocs (value : Toml.Value) : Option (String × Option Nat) := do
  match ← value.fields? ["base_url", "timeout_secs"] with
  | [baseUrl, timeout] =>
    return (← orStandard standardBaseUrl asText? baseUrl,
      ← orStandard none (fun found => found.asNat?.map some) timeout)
  | _ => none

def decodeCache (value : Toml.Value) : Option (Option String) := do
  match ← value.fields? ["dir"] with
  | [directory] => orStandard none (fun found => found.asText?.map some) directory
  | _ => none

def decodeLint (value : Toml.Value) : Option LintSettings := do
  let standard := LintSettings.standard
  match ← value.fields? ["allow", "deny", "max_suggestions", "similarity_threshold"] with
  | [allow, deny, limit, threshold] =>
    return ⟨← orStandard standard.allow asTexts? allow, ← orStandard standard.deny asTexts? deny,
      ← orStandard standard.maxSuggestions asNat? limit,
      ← orStandard standard.similarityThreshold asNumber? threshold⟩
  | _ => none

def decode? (entries : Toml.Entries) : Option Settings := do
  let (baseUrl, timeout) ←
    orStandard (standardBaseUrl, none) decodeDocs (entries.lookup "docs")
  let directory ← orStandard none decodeCache (entries.lookup "cache")
  let lint ← orStandard LintSettings.standard decodeLint (entries.lookup "lint")
  return ⟨baseUrl, timeout, directory, lint⟩

def ofText (text : String) : Except SettingsError Settings :=
  match (Toml.parse? text).bind decode? with
  | none => .error (.malformed "not a settings file")
  | some settings =>
    match settings.fault? with
    | some fault => .error (.invalid fault.message)
    | none => .ok settings

end Settings

end ScriptLint
