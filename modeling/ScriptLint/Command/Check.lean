import ScriptLint.Command.Outcome
import ScriptLint.Diagnostic.Encoding
import ScriptLint.Json.Printer
import ScriptLint.Lint.Engine
import ScriptLint.Script.Discovery

/-!
# Checking scripts

Finds the scripts and checks them one by one against the cache.  The findings are reported as text
or as JSON. The check fails if some finding is an error, or if it cannot be made at all.
-/

namespace ScriptLint.Check

/-- How findings are reported. -/
inductive ReportFormat where
  /-- As text, for people. -/
  | text
  /-- As JSON, for editors. -/
  | json
deriving DecidableEq, Repr

/-- What is checked, and how. -/
structure Options where
  /-- The files and directories to check.  Without any it is the directory of the project. -/
  paths : List String
  format : ReportFormat
  update : Bool
  allow : List String
  deny : List String
deriving DecidableEq, Repr

/-- The findings in a file. -/
structure FileReport where
  path : String
  diagnostics : List Diagnostic

/-- Why a check cannot be made. -/
inductive CheckError where
  /-- The scripts could not be found. -/
  | undiscovered (cause : DiscoveryError)
  /-- A script could not be read. -/
  | unreadable (path : String) (cause : FileError)
deriving DecidableEq, Repr

namespace CheckError

def message : CheckError → String
  | undiscovered cause => cause.message
  | unreadable path cause => "cannot read " ++ path ++ ": " ++ cause.message

end CheckError

/-- A check, with what is said before its findings. -/
structure Checked where
  warnings : List String
  /-- The findings in every file, in the order of the files. -/
  reports : Except CheckError (List FileReport)

/-- The findings in files, which are read in their order.  All files share one catalog, in which
each finds the tables that were loaded for those before it. -/
def checkFiles (engine : Engine) (store : CacheStore)
    (readText : String → Except FileError String) :
    List String → Catalog → Except CheckError (List FileReport)
  | [], _ => .ok []
  | path :: rest, catalog =>
    match readText path with
    | .error cause => .error (.unreadable path cause)
    | .ok source =>
      let (diagnostics, later) := engine.checkSource store source catalog
      (checkFiles engine store readText rest later).map (⟨path, diagnostics⟩ :: ·)

def unknownRuleNames (engine : Engine) (settings : LintSettings) : List String :=
  (settings.allow ++ settings.deny).filter fun name => !engine.ruleNames.contains name

/-- The warning that there is no documentation to check against, if there is none. -/
def emptyCacheWarning (readiness : Readiness) (files : List String) (store : CacheStore) :
    List String :=
  if readiness = .empty ∧ !files.isEmpty then
    ["warning: documentation cache at " ++ store.path ++ " is empty; run \x60gsapi update\x60"]
  else []

/-- Checks the scripts of a project, in a file system with the given cache. -/
def checkProject (surroundings : Surroundings) (options : Options) (project : Project)
    (store : CacheStore) : Checked :=
  let tree := surroundings.files
  let here := surroundings.here
  let roots := if options.paths.isEmpty then [project.directory] else options.paths
  match Discovery.scripts tree here surroundings.home roots with
  | .error cause => ⟨[], .error (.undiscovered cause)⟩
  | .ok files =>
    let (readiness, catalog) := Catalog.unloaded.warm store
    let settings := project.settings.lint.overriddenBy options.allow options.deny
    let engine := Engine.ofSettings settings
    let unknown := (unknownRuleNames engine settings).map fun name =>
      "warning: unknown lint rule '" ++ name ++ "' in allow/deny list"
    ⟨emptyCacheWarning readiness files store ++ unknown,
      checkFiles engine store (tree.readText here) files catalog⟩

def errorCount (reports : List FileReport) : Nat :=
  (reports.flatMap FileReport.diagnostics).countP fun diagnostic => diagnostic.severity == .error

def textFindings (colour : Bool) (reports : List FileReport) : String :=
  Outcome.linesText <| reports.flatMap fun report =>
    report.diagnostics.map (Diagnostic.render colour report.path)

/-- The findings for editors: the messages of each file, sorted by path. -/
def editorReport (reports : List FileReport) : List (String × List LintMessage) :=
  (reports.map fun report => (report.path, lintMessages report.diagnostics)).mergeSort
    fun left right => (compare left.1 right.1).isLE

def jsonFindings (reports : List FileReport) : String :=
  (Json.ofMembers <| (editorReport reports).map fun (path, messages) =>
    (path, Json.array (messages.map LintMessage.encode))).pretty

/-- How a check ends, given what was said and which requests were made before. -/
def outcome (options : Options) (colour : Bool) (files : FileTree) (requests : List Request)
    (before : List String) (checked : Checked) : Outcome :=
  let warned := Outcome.linesText (before ++ checked.warnings)
  match checked.reports with
  | .error failure =>
    ⟨1, "", warned ++ Outcome.linesText ["error: " ++ failure.message], files, requests⟩
  | .ok reports =>
    let errors := errorCount reports
    let code := if errors = 0 then 0 else 1
    match options.format with
    | .json => ⟨code, Outcome.linesText [jsonFindings reports], warned, files, requests⟩
    | .text =>
      let findings := textFindings colour reports
      if errors = 0 then
        ⟨0, Outcome.linesText ["GS API usage looks OK"], warned ++ findings, files, requests⟩
      else
        let total := "Found " ++ toString errors ++ " API usage errors"
        ⟨1, "", warned ++ findings ++ Outcome.linesText [total], files, requests⟩

/-- Checks the scripts of a project, after an update of its cache if that is asked for.  A failed
update is told and does not stop the check. -/
def projectOutcome (environment : Environment) (options : Options) (colour : Bool)
    (project : Project) : Outcome :=
  let surroundings := environment.surroundings
  let store := environment.store project
  if options.update then
    let run := (environment.maintainer project).updateAll false store
    let files := environment.filesWith run.store
    let before :=
      match run.result with
      | .ok _ => []
      | .error failure => ["warning: cache update failed: " ++ failure.message]
    outcome options colour files run.requests before
      (checkProject { surroundings with files } options project run.store)
  else
    outcome options colour surroundings.files [] []
      (checkProject surroundings options project store)

def run (environment : Environment) (colour : Bool)
    (loadProject : Surroundings → Except SettingsError Project) (options : Options) : Outcome :=
  match loadProject environment.surroundings with
  | .error failure => .failed environment.surroundings.files failure.message
  | .ok project => projectOutcome environment options colour project

end ScriptLint.Check
