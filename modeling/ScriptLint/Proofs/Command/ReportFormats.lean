import ScriptLint.Proofs.Cache.EntryText
import ScriptLint.Proofs.Diagnostic.EncodedDiagnostics
import ScriptLint.Proofs.Diagnostic.RenderedDiagnostics
import ScriptLint.Proofs.Lint.StandingRules
import ScriptLint.Proofs.Script.FoundScripts

/-!
# Reports as text and as JSON

A check makes the same findings whether they are reported as text or as JSON.  The text lists them
file by file; the JSON object has one member for each file, since no two files that are found have
the same path, and holds the findings of the file in the same order.  Each finding has the same
message and the same place in both.  Both ways the check ends with the same exit code, and the
errors that the text counts are the messages of the highest severity.
-/

namespace ScriptLint

/-- A value that has been laid out is read as itself when its line ends behind it. -/
theorem Json.parse?_linesText_pretty {value : Json} (plain : value.IsPlain) :
    parse? (Outcome.linesText [value.pretty]) = some value := by
  have lineEnd : AllGaps ['\n'] := by simp [AllGaps, isGap]
  have charsEq : (Outcome.linesText [value.pretty]).toList = write (.lines 0) value ++ ['\n'] := by
    simp [Outcome.linesText, pretty]
  have enough :
      (write (.lines 0) value).length < (write (.lines 0) value ++ ['\n']).length + 1 := by
    rw [List.length_append]
    omega
  have read := plain.readsBack (.lines 0) _ ['\n'] (endsNumber_of_gaps lineEnd endsNumber_nil)
    enough
  rw [parse?, charsEq]
  dsimp only
  rw [read]
  rfl

/-- A file that holds a text is read as this text. -/
theorem FileTree.readText_of_find? {tree : FileTree} {here : Place} {path text : String}
    (known : tree.find? here path = some (.file text.toUTF8)) :
    tree.readText here path = .ok text := by
  rw [find?] at known
  rw [readText, readBytes]
  cases arrived : tree.arrive here path with
  | error cause => simp [arrived, Except.toOption] at known
  | ok arrival =>
      rw [arrived] at known
      have node : arrival.node = some (.file text.toUTF8) := known
      dsimp only
      rw [node]
      dsimp only
      rw [CacheStore.fromUTF8?_toUTF8]

namespace Check

variable {reports : List FileReport}

theorem perm_editorReport (reports : List FileReport) :
    (editorReport reports).Perm
      (reports.map fun report => (report.path, lintMessages report.diagnostics)) :=
  List.mergeSort_perm _ _

/-- The JSON object of the messages of files. -/
def messagesValue (files : List (String × List LintMessage)) : Json :=
  Json.ofMembers (files.map fun file => (file.1, .array (file.2.map LintMessage.encode)))

theorem isPlain_messagesValue (files : List (String × List LintMessage)) :
    (messagesValue files).IsPlain := by
  refine .ofMembers fun member inMembers => ?_
  obtain ⟨file, -, rfl⟩ := List.mem_map.mp inMembers
  exact LintMessage.isPlain_array file.2

/-- The JSON text of a check is read as the messages of its files. -/
theorem parse?_jsonFindings (reports : List FileReport) :
    Json.parse? (Outcome.linesText [jsonFindings reports]) =
      some (messagesValue (editorReport reports)) :=
  Json.parse?_linesText_pretty (isPlain_messagesValue (editorReport reports))

theorem level_eq_two_iff (severity : Severity) :
    (severity.level == 2) = (severity == .error) := by
  cases severity <;> rfl

/-- The errors of a check are its messages of the highest severity. -/
theorem countP_editorReport (reports : List FileReport) :
    ((editorReport reports).flatMap Prod.snd).countP (fun message => message.severity == 2) =
      errorCount reports := by
  rw [((perm_editorReport reports).flatMap_right Prod.snd).countP_eq, errorCount,
    List.countP_flatMap, List.countP_flatMap, List.map_map]
  refine congrArg List.sum (List.map_congr_left fun report _ => ?_)
  simp only [Function.comp_apply, lintMessages, List.countP_map]
  exact List.countP_congr fun diagnostic _ => by
    simp [LintMessage.ofDiagnostic, level_eq_two_iff]

theorem errorCount_eq_zero_iff (reports : List FileReport) :
    errorCount reports = 0 ↔
      ¬∃ report ∈ reports, ∃ diagnostic ∈ report.diagnostics, diagnostic.severity = .error := by
  rw [errorCount, List.countP_eq_zero]
  constructor
  · rintro none ⟨report, inReports, diagnostic, inReport, severe⟩
    exact none diagnostic (List.mem_flatMap.mpr ⟨report, inReports, inReport⟩) (by simp [severe])
  · intro none diagnostic member severe
    obtain ⟨report, inReports, inReport⟩ := List.mem_flatMap.mp member
    exact none ⟨report, inReports, diagnostic, inReport, by simpa using severe⟩

/-- What a check of a project finds around it, and the cache, after the update that it may begin
with. -/
def subject (environment : Environment) (options : Options) (project : Project) :
    Surroundings × CacheStore :=
  let surroundings := environment.surroundings
  let store := environment.store project
  if options.update then
    let run := (environment.maintainer project).updateAll false store
    ({ surroundings with files := environment.filesWith run.store }, run.store)
  else (surroundings, store)

def checked (environment : Environment) (options : Options) (project : Project) : Checked :=
  let (surroundings, store) := subject environment options project
  checkProject surroundings options project store

/-- The format says how a check ends and has no part in what it does. -/
theorem exists_projectOutcome_eq (environment : Environment) (options : Options)
    (project : Project) :
    ∃ files requests before, ∀ format colour,
      projectOutcome environment { options with format } colour project =
        outcome { options with format } colour files requests before
          (checked environment options project) := by
  rw [checked, subject]
  by_cases update : options.update
  · simp only [projectOutcome, update, if_true]
    exact ⟨_, _, _, fun format colour => rfl⟩
  · simp only [projectOutcome, update, Bool.false_eq_true, if_false]
    exact ⟨_, _, _, fun format colour => rfl⟩

section Completed

variable {environment : Environment} {options : Options} {project : Project}

theorem scripts_of_checked
    (completes : (checked environment options project).reports = .ok reports) :
    Discovery.scripts (subject environment options project).1.files
      (subject environment options project).1.here (subject environment options project).1.home
      (roots options project) = .ok (reports.map FileReport.path) :=
  scripts_of_reports completes

/-- No two files of a check have the same path. -/
theorem nodup_path_of_checked
    (completes : (checked environment options project).reports = .ok reports) :
    (reports.map FileReport.path).Nodup :=
  (Discovery.scripts_ascending (scripts_of_checked completes)).imp fun before same =>
    Path.parts_ne_of_order_lt before (congrArg Path.parts same)

/-- How a check ends that is completed. -/
theorem run_of_checked {loadProject : Surroundings → Except SettingsError Project}
    (loads : loadProject environment.surroundings = .ok project)
    (completes : (checked environment options project).reports = .ok reports) :
    ∃ files requests before, ∀ format colour,
      run environment colour loadProject { options with format } =
        outcome { options with format } colour files requests before
          ⟨(checked environment options project).warnings, .ok reports⟩ := by
  obtain ⟨files, requests, before, outcomeEq⟩ :=
    exists_projectOutcome_eq environment options project
  refine ⟨files, requests, before, fun format colour => ?_⟩
  rw [run, loads]
  dsimp only
  rw [outcomeEq, ← completes]

end Completed

section Outcomes

variable (options : Options) (colour : Bool) (files : FileTree) (requests : List Request)
variable (before warnings : List String) (reports : List FileReport)

theorem outcome_json :
    outcome { options with format := .json } colour files requests before
        ⟨warnings, .ok reports⟩ =
      ⟨if errorCount reports = 0 then 0 else 1, Outcome.linesText [jsonFindings reports],
        Outcome.linesText (before ++ warnings), files, requests⟩ :=
  rfl

theorem outcome_text :
    outcome { options with format := .text } colour files requests before
        ⟨warnings, .ok reports⟩ =
      ⟨if errorCount reports = 0 then 0 else 1,
        if errorCount reports = 0 then Outcome.linesText ["GS API usage looks OK"] else "",
        Outcome.linesText (before ++ warnings) ++ textFindings colour reports ++
          if errorCount reports = 0 then ""
          else Outcome.linesText ["Found " ++ toString (errorCount reports) ++ " API usage errors"],
        files, requests⟩ := by
  rw [outcome]
  dsimp only
  split_ifs
  · rw [String.append_empty]
  · rfl

end Outcomes

/-- The messages of an editor for the diagnostics of a file: in the same order, each with the text,
the place and the level of its diagnostic. -/
def MessagesOf (diagnostics : List Diagnostic) (messages : List LintMessage) : Prop :=
  List.Forall₂ (fun diagnostic message =>
    message.message = diagnostic.message ∧ message.line = diagnostic.location.line ∧
      message.column = diagnostic.location.column ∧
      message.severity = diagnostic.severity.level) diagnostics messages

theorem messagesOf_lintMessages (diagnostics : List Diagnostic) :
    MessagesOf diagnostics (lintMessages diagnostics) := by
  induction diagnostics with
  | nil => exact .nil
  | cons first rest ih => exact .cons ⟨rfl, rfl, rfl, rfl⟩ ih

/-- Rendered diagnostics of a file show the messages of an editor with their places, one after the
other. -/
def ShowsMessages (file : String) (shown : List String) (messages : List LintMessage) : Prop :=
  List.Forall₂ (fun text message =>
    Diagnostic.Shows text file message.message ⟨message.line, message.column⟩) shown messages

theorem MessagesOf.showsMessages {diagnostics : List Diagnostic} {messages : List LintMessage}
    (messagesOf : MessagesOf diagnostics messages) (colour : Bool) (file : String) :
    ShowsMessages file (diagnostics.map (Diagnostic.render colour file)) messages := by
  induction messagesOf with
  | nil => exact .nil
  | cons same _ ih =>
      obtain ⟨messageEq, lineEq, columnEq, -⟩ := same
      refine .cons ?_ ih
      rw [messageEq, lineEq, columnEq]
      exact Diagnostic.shows_render colour file _

/-- A check that is completed ends with the same exit code in both formats: with one if some finding
is an error, and with zero otherwise.  The text lists the findings file by file and counts the
errors.  The JSON text is an object with one member for each script that was found, which holds the
messages for the findings that the text lists for this script, in the same order, and the text shows
each of them with its place.  The messages of the highest level are as many as the text counts
errors. -/
theorem formats_agree {environment : Environment} {options : Options} {project : Project}
    {loadProject : Surroundings → Except SettingsError Project} {reports : List FileReport}
    (loads : loadProject environment.surroundings = .ok project)
    (completes : (checked environment options project).reports = .ok reports) (colour : Bool) :
    let surroundings := (subject environment options project).1
    let text := run environment colour loadProject { options with format := .text }
    let json := run environment colour loadProject { options with format := .json }
    let errors := errorCount reports
    text.code = json.code ∧ (text.code = 0 ∨ text.code = 1) ∧
      (text.code = 1 ↔
        ∃ report ∈ reports, ∃ diagnostic ∈ report.diagnostics, diagnostic.severity = .error) ∧
      Discovery.scripts surroundings.files surroundings.here surroundings.home
        (roots options project) = .ok (reports.map FileReport.path) ∧
      ∃ warned files,
        text.errors = warned ++
          Outcome.linesText (reports.flatMap fun report =>
            report.diagnostics.map (Diagnostic.render colour report.path)) ++
          (if errors = 0 then ""
            else Outcome.linesText ["Found " ++ toString errors ++ " API usage errors"]) ∧
        text.output =
          (if errors = 0 then Outcome.linesText ["GS API usage looks OK"] else "") ∧
        json.errors = warned ∧
        Json.parse? json.output = some (messagesValue files) ∧
        (files.map Prod.fst).Nodup ∧
        (files.map Prod.fst).Perm (reports.map FileReport.path) ∧
        (∀ report ∈ reports, ∃ messages, (report.path, messages) ∈ files ∧
          MessagesOf report.diagnostics messages ∧
          ShowsMessages report.path
            (report.diagnostics.map (Diagnostic.render colour report.path)) messages) ∧
        (files.flatMap Prod.snd).countP (fun message => message.severity == 2) = errors := by
  intro surroundings text json errors
  obtain ⟨changed, requests, before, runEq⟩ := run_of_checked loads completes
  have textEq : text = _ := (runEq .text colour).trans (outcome_text ..)
  have jsonEq : json = _ := (runEq .json colour).trans (outcome_json ..)
  have codeEq : text.code = if errors = 0 then 0 else 1 := by rw [textEq]
  have failing := (errorCount_eq_zero_iff reports).not_left
  have pathsEq := (perm_editorReport reports).map Prod.fst
  rw [List.map_map] at pathsEq
  refine ⟨by rw [textEq, jsonEq], ?_, ?_, scripts_of_checked completes, _, editorReport reports,
    by rw [textEq]; rfl, by rw [textEq], by rw [jsonEq], ?_,
    pathsEq.nodup_iff.mpr (nodup_path_of_checked completes), pathsEq, fun report member => ?_,
    countP_editorReport reports⟩
  · rw [codeEq]
    split_ifs <;> simp
  · rw [codeEq, ← failing]
    split_ifs with none
    · exact iff_of_false (by decide) (not_not_intro none)
    · exact iff_of_true rfl none
  · rw [jsonEq]
    exact parse?_jsonFindings reports
  · have messagesOf := messagesOf_lintMessages report.diagnostics
    exact ⟨_, (perm_editorReport reports).mem_iff.mpr (List.mem_map_of_mem member), messagesOf,
      messagesOf.showsMessages colour report.path⟩

/-- A directory with a script that calls a method, and no cache. -/
def lonelyCall : Environment :=
  ⟨⟨Discovery.twoScripts "GSGoal.New()", [], "", none⟩,
    fun base => (MemorySite.ofBase base).toSite, .epoch⟩

/-- A project in the working directory. -/
def plainProject : Project :=
  ⟨".", .standard, ⟨"c", .home⟩⟩

/-- A check of both scripts to which a missing class is an error. -/
def strictOptions : Options :=
  ⟨["a.nut", "b.nut"], .text, false, [], ["docs-unavailable"]⟩

/-- What the check finds in the script with the call. -/
def missingClass : Diagnostic where
  severity := .error
  code := ⟨.warning, 1⟩
  rule := "docs-unavailable"
  message := "API documentation not available for GSGoal (cache may not be initialized)"
  location := ⟨1, 1⟩
  notes := []
  help := ["run `gsapi update` to populate the documentation cache"]

theorem scanCalls_lonelyCall :
    scanCalls "GSGoal.New()" = [⟨"GSGoal", "New", 0, 1, 1, 0⟩] ∧ scanCalls "" = [] := by
  have step : (CallCursor.ofText "GSGoal.New()".toList).next? =
      some (⟨"GSGoal", "New", 0, 1, 1, 0⟩, ⟨.ofText "GSGoal.New()".toList, 11, [')']⟩) :=
    rfl
  have last : CallCursor.next? ⟨.ofText "GSGoal.New()".toList, 11, [')']⟩ = none := rfl
  have none : (CallCursor.ofText "".toList).next? = none := rfl
  constructor
  · rw [scanCalls, CallCursor.remaining_of_next?_eq_some step,
      CallCursor.remaining_of_next?_eq_none last]
  · rw [scanCalls, CallCursor.remaining_of_next?_eq_none none]

/-- Without the cache no class has a table. -/
theorem readMethods?_lonelyCall (className : String) :
    (lonelyCall.store plainProject).readMethods? className = none := by
  have cut : Path.segments "c" = ["c"] ∧ Path.isAbsolute "c" = false :=
    ⟨rfl, by simp [Path.isAbsolute]⟩
  have missing : (Discovery.twoScripts "GSGoal.New()").find? [] "c" = none := by
    simp [FileTree.find?, FileTree.arrive, cut, FileTree.follow, FileTree.node?,
      Discovery.twoScripts, Path.isFiller, Except.toOption, List.lookup_cons]
  have noNode : (lonelyCall.store plainProject).node? className = none := by
    simp only [CacheStore.node?, Environment.store, lonelyCall, plainProject,
      FileTree.cacheDirectory, missing]
    split <;> rfl
  simp [CacheStore.readMethods?, CacheStore.readUsable?, CacheStore.read?_eq, noNode]

theorem judge_lonelyCall (settings : LintSettings)
    (lists : settings.allow = [] ∧ settings.deny = ["docs-unavailable"]) :
    (Engine.ofSettings settings).judge ⟨"GSGoal", "New", 0, 1, 1, 0⟩ none = [missingClass] := by
  simp [Engine.judge, Engine.ofSettings, Rule.standing, Engine.apply, lists, Rule.docsUnavailable,
    Rule.unknownMethod, Rule.arityMismatch, missingClass, CallSite.location]

theorem readText_twoScripts (first : String) :
    (Discovery.twoScripts first).readText [] "a.nut" = .ok first ∧
      (Discovery.twoScripts first).readText [] "b.nut" = .ok "" := by
  obtain ⟨known, -, other⟩ := Discovery.find?_twoScripts first
  exact ⟨FileTree.readText_of_find? known, FileTree.readText_of_find? other⟩

theorem checked_lonelyCall :
    (checked lonelyCall strictOptions plainProject).reports =
      .ok [⟨"a.nut", [missingClass]⟩, ⟨"b.nut", []⟩] := by
  let store := lonelyCall.store plainProject
  let engine := Engine.ofSettings (Settings.standard.lint.overriddenBy [] ["docs-unavailable"])
  let readText := (Discovery.twoScripts "GSGoal.New()").readText []
  have found : Discovery.scripts (Discovery.twoScripts "GSGoal.New()") [] "" ["a.nut", "b.nut"] =
      .ok ["a.nut", "b.nut"] :=
    Discovery.scripts_twoScripts _ (by simp) (by decide +kernel)
  obtain ⟨known, other⟩ : readText "a.nut" = .ok "GSGoal.New()" ∧ readText "b.nut" = .ok "" :=
    readText_twoScripts "GSGoal.New()"
  obtain ⟨oneCall, noCall⟩ := scanCalls_lonelyCall
  have tracked : TrackedClass.ofName? "GSGoal" = some .goal := by decide
  have noTable : Catalog.unloaded.tableOf? store .goal = none := by
    rw [Catalog.tableOf?, readMethods?_lonelyCall]
    rfl
  have first : reportAlone engine store readText "a.nut" = .ok ⟨"a.nut", [missingClass]⟩ := by
    rw [reportAlone, known]
    dsimp only
    rw [Engine.checkSource, Engine.checkCalls_fst, oneCall]
    simp only [List.flatMap_cons, List.flatMap_nil, tracked, noTable, List.append_nil]
    rw [judge_lonelyCall _ (by decide)]
  have second : reportAlone engine store readText "b.nut" = .ok ⟨"b.nut", []⟩ := by
    rw [reportAlone, other]
    dsimp only
    rw [Engine.checkSource, noCall]
    rfl
  calc
    _ = ["a.nut", "b.nut"].mapM (reportAlone engine store readText) :=
      reports_checkProject lonelyCall.surroundings strictOptions plainProject store found
    _ = .ok [⟨"a.nut", [missingClass]⟩, ⟨"b.nut", []⟩] := by
      rw [List.mapM_cons, List.mapM_cons, first, second]
      rfl

theorem formats_agree_lonelyCall :
    let outcomeIn := fun format =>
      run lonelyCall false (fun _ => .ok plainProject) { strictOptions with format }
    (outcomeIn .text).code = 1 ∧ (outcomeIn .json).code = 1 ∧
      ∃ warned shown files, (outcomeIn .text).errors =
          warned ++ Outcome.linesText [shown] ++ Outcome.linesText ["Found 1 API usage errors"] ∧
        (outcomeIn .json).errors = warned ∧
        Json.parse? (outcomeIn .json).output = some (messagesValue files) ∧
        (files.map Prod.fst).Perm ["a.nut", "b.nut"] ∧
        (∃ message, ("a.nut", [message]) ∈ files ∧
          Diagnostic.Shows shown "a.nut" message.message ⟨message.line, message.column⟩) ∧
        (files.flatMap Prod.snd).countP (fun message => message.severity == 2) = 1 := by
  intro outcomeIn
  let loadProject : Surroundings → Except SettingsError Project := fun _ => .ok plainProject
  have loads : loadProject lonelyCall.surroundings = .ok plainProject := rfl
  obtain ⟨codes, -, failing, -, warned, files, errorsEq, -, warnedEq, parsed, -, keys, agree,
    counted⟩ := formats_agree loads checked_lonelyCall false
  have fails : (outcomeIn .text).code = 1 :=
    failing.mpr ⟨_, List.mem_cons_self, missingClass, List.mem_cons_self, rfl⟩
  obtain ⟨messages, inFiles, -, shows⟩ := agree _ List.mem_cons_self
  obtain ⟨message, others, showsFirst, showsOthers, rfl⟩ := List.forall₂_cons_left_iff.mp shows
  obtain rfl : others = [] := List.forall₂_nil_left_iff.mp showsOthers
  exact ⟨fails, codes.symm.trans fails, warned, _, files, errorsEq, warnedEq, parsed, keys,
    ⟨message, inFiles, showsFirst⟩, counted⟩

end Check

end ScriptLint
