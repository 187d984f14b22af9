import ScriptLint.Command.Outcome

/-!
# Showing a class

The methods of a tracked class that the cache has, one line each with the numbers of arguments they
take.
-/

namespace ScriptLint.Show

/-- The numbers of arguments of a method, with slashes between them. -/
def arityListing (arities : AritySet) : String :=
  "/".intercalate (arities.toList.map fun arity => toString arity)

def methodText (name : String) (arities : AritySet) : String :=
  name ++ "(" ++ arityListing arities ++ ")"

def listing (className : String) (methods : MethodTable) : List String :=
  (className ++ ":") :: methods.entries.map fun (name, arities) => "  - " ++ methodText name arities

def provenance (path : String) (entry : CacheEntry) : List String :=
  ["   Cache file: " ++ path] ++
    (entry.cachedAt.map fun instant => "   Cached at: " ++ instant.offsetText).toList ++
    ((entry.headers.bind ValidationHeaders.etag).map fun tag => "   ETag: " ++ tag).toList

/-- What is said of a class that is not tracked. -/
def untrackedMessage (className : String) : String :=
  "'" ++ className ++ "' is not a tracked API class (known: " ++
    ", ".intercalate (TrackedClass.all.map TrackedClass.name) ++ ")"

/-- What is said of a class that the cache does not have. -/
def unavailableMessage (className : String) : String :=
  "API documentation not available for " ++ className ++ " (cache may not be initialized)"

def entryOutcome (files : FileTree) (verbose : Bool) (store : CacheStore)
    (trackedClass : TrackedClass) : Outcome :=
  let className := trackedClass.name
  match store.readUsable? className with
  | none => ⟨1, "", Outcome.linesText [unavailableMessage className], files, []⟩
  | some entry =>
    ⟨0, Outcome.linesText (listing className entry.methods),
      if verbose then Outcome.linesText (provenance (store.pathFor className) entry) else "",
      files, []⟩

def run (environment : Environment) (verbose : Bool)
    (loadProject : Surroundings → Except SettingsError Project) (className : String) : Outcome :=
  let files := environment.surroundings.files
  match TrackedClass.ofName? className with
  | none => .failed files (untrackedMessage className)
  | some trackedClass =>
    match loadProject environment.surroundings with
    | .error failure => .failed files failure.message
    | .ok project => entryOutcome files verbose (environment.store project) trackedClass

end ScriptLint.Show
