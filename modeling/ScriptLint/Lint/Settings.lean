/-!
# Settings of the rules

Which rules are passed over, which findings count as errors, and how far similar names are
suggested.  What is given beside the settings counts more than the settings.
-/

namespace ScriptLint

/-- What settings say about the rules. -/
structure LintSettings where
  allow : List String
  deny : List String
  maxSuggestions : Nat
  similarityThreshold : Float

namespace LintSettings

def standard : LintSettings :=
  ⟨[], [], 3, 0.5⟩

/-- Settings in which names given beside them are allowed or denied instead.  A name allowed here is
no longer denied by the settings; then one denied here is no longer allowed. -/
def overriddenBy (settings : LintSettings) (allow deny : List String) : LintSettings :=
  let allowed := allow.foldl (fun merged name =>
    { merged with
      deny := merged.deny.filter (· != name)
      allow := if merged.allow.contains name then merged.allow else merged.allow ++ [name] })
    settings
  deny.foldl (fun merged name =>
    { merged with
      allow := merged.allow.filter (· != name)
      deny := if merged.deny.contains name then merged.deny else merged.deny ++ [name] })
    allowed

end LintSettings

end ScriptLint
