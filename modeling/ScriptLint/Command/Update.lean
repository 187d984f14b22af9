import ScriptLint.Command.Outcome

/-!
# Updating the cache

Refreshes all tracked classes.  The run stops at the first class that fails, or goes on and tells of
every class.
-/

namespace ScriptLint.Update

/-- How the cache is updated. -/
structure Options where
  /-- Whether pages are fetched even if the cache is fresh. -/
  force : Bool
  keepGoing : Bool
deriving DecidableEq, Repr

def resultLine (trackedClass : TrackedClass) (result : RefreshResult) : String :=
  let count (methods : MethodTable) : String := "(" ++ toString methods.size ++ " methods)"
  "  " ++ trackedClass.name ++ ": " ++
    match result with
    | .ok (.reused methods) => "up to date " ++ count methods
    | .ok (.fetched methods true) => "refreshed " ++ count methods
    | .ok (.fetched methods false) => "fetched " ++ count methods ++ ", not cached"
    | .error failure => "failed: " ++ failure.message

def successLine : String :=
  "✅ GS API cache updated successfully"

def failureLine (reason : String) : String :=
  "❌ Failed to update GS API cache: " ++ reason

def projectOutcome (environment : Environment) (options : Options) (project : Project) : Outcome :=
  let maintainer := environment.maintainer project
  let store := environment.store project
  if options.keepGoing then
    let run := maintainer.updateEach options.force store
    let files := environment.filesWith run.store
    let lines := run.result.map fun (trackedClass, result) => resultLine trackedClass result
    let failed := run.result.countP fun (_, result) => !result.isOk
    if failed = 0 then ⟨0, Outcome.linesText (lines ++ [successLine]), "", files, run.requests⟩
    else
      let reason := toString failed ++ " of " ++ toString run.result.length ++ " classes failed"
      ⟨1, Outcome.linesText lines, Outcome.linesText [failureLine reason], files, run.requests⟩
  else
    let run := maintainer.updateAll options.force store
    let files := environment.filesWith run.store
    match run.result with
    | .ok _ => ⟨0, Outcome.linesText [successLine], "", files, run.requests⟩
    | .error failure =>
      ⟨1, "", Outcome.linesText [failureLine failure.message], files, run.requests⟩

def run (environment : Environment) (loadProject : Surroundings → Except SettingsError Project)
    (options : Options) : Outcome :=
  match loadProject environment.surroundings with
  | .error failure => .failed environment.surroundings.files failure.message
  | .ok project => projectOutcome environment options project

end ScriptLint.Update
