import ScriptLint.Command.Check
import ScriptLint.Proofs.Lint.RuleLists
import ScriptLint.Proofs.Lint.StandingRules

/-!
# The levels of rules under flags

Names of rules are allowed and denied by settings and by flags beside them.  The flags are gone
through one after the other, those that allow before those that deny, and each of them takes its
name out of one list and puts it into the other.  So the last flag that names a rule decides; of two
lists of settings that both name a rule, the one that allows decides.
-/

namespace ScriptLint

namespace LintSettings

/-- The settings with the two lists of names exchanged. -/
def exchanged (settings : LintSettings) : LintSettings :=
  { settings with allow := settings.deny, deny := settings.allow }

def allowing (settings : LintSettings) (name : String) : LintSettings :=
  { settings with
    deny := settings.deny.filter (· != name)
    allow := if settings.allow.contains name then settings.allow else settings.allow ++ [name] }

/-- Denying a name is allowing it with the lists exchanged, so all that is to be known of flags that
deny follows from what is known of flags that allow. -/
theorem overriddenBy_eq (settings : LintSettings) (allow deny : List String) :
    settings.overriddenBy allow deny =
      (deny.foldl allowing (allow.foldl allowing settings).exchanged).exchanged := by
  have denying : ∀ merged : LintSettings,
      deny.foldl (fun merged name =>
        { merged with
          allow := merged.allow.filter (· != name)
          deny := if merged.deny.contains name then merged.deny else merged.deny ++ [name] })
        merged = (deny.foldl allowing merged.exchanged).exchanged := by
    intro merged
    induction deny generalizing merged with
    | nil => rfl
    | cons name rest ih => exact ih _
  exact denying _

variable {settings : LintSettings} {name : String}

theorem mem_allow_foldl_allowing (names : List String) :
    name ∈ (names.foldl allowing settings).allow ↔ name ∈ settings.allow ∨ name ∈ names := by
  induction names generalizing settings with
  | nil => simp
  | cons first rest ih =>
      have mem_allowing : name ∈ (settings.allowing first).allow ↔
          name ∈ settings.allow ∨ name = first := by
        unfold allowing
        by_cases listed : first ∈ settings.allow
        · simp only [List.contains_iff_mem.mpr listed, if_true]
          grind
        · simp [listed]
      rw [List.foldl_cons, ih, mem_allowing, List.mem_cons, or_assoc]

theorem mem_deny_foldl_allowing (names : List String) :
    name ∈ (names.foldl allowing settings).deny ↔ name ∈ settings.deny ∧ name ∉ names := by
  induction names generalizing settings with
  | nil => simp
  | cons first rest ih =>
      rw [List.foldl_cons, ih]
      simp [allowing, and_assoc]

theorem foldl_allowing_others (settings : LintSettings) (names : List String) :
    (names.foldl allowing settings).maxSuggestions = settings.maxSuggestions ∧
      (names.foldl allowing settings).similarityThreshold = settings.similarityThreshold := by
  induction names generalizing settings with
  | nil => exact ⟨rfl, rfl⟩
  | cons first rest ih => exact ih (settings.allowing first)

variable {allow deny : List String}

theorem mem_allow_overriddenBy :
    name ∈ (settings.overriddenBy allow deny).allow ↔
      (name ∈ settings.allow ∨ name ∈ allow) ∧ name ∉ deny := by
  rw [overriddenBy_eq]
  simp only [exchanged, mem_deny_foldl_allowing, mem_allow_foldl_allowing]

theorem mem_deny_overriddenBy :
    name ∈ (settings.overriddenBy allow deny).deny ↔
      name ∈ settings.deny ∧ name ∉ allow ∨ name ∈ deny := by
  rw [overriddenBy_eq]
  simp only [exchanged, mem_deny_foldl_allowing, mem_allow_foldl_allowing]

theorem overriddenBy_others :
    (settings.overriddenBy allow deny).maxSuggestions = settings.maxSuggestions ∧
      (settings.overriddenBy allow deny).similarityThreshold = settings.similarityThreshold := by
  rw [overriddenBy_eq]
  have allowed := foldl_allowing_others settings allow
  have denied := foldl_allowing_others (allow.foldl allowing settings).exchanged deny
  exact ⟨denied.1.trans allowed.1, denied.2.trans allowed.2⟩

/-- Whether a rule is passed over: it is not denied by a flag, and something allows it. -/
def Suppresses (settings : LintSettings) (allow deny : List String) (name : String) : Prop :=
  name ∉ deny ∧ (name ∈ allow ∨ name ∈ settings.allow)

/-- Whether what a rule finds is an error: the rule is not passed over, and it is denied by a flag,
or by settings that no flag contradicts. -/
def Promotes (settings : LintSettings) (allow deny : List String) (name : String) : Prop :=
  ¬settings.Suppresses allow deny name ∧
    (name ∈ deny ∨ name ∈ settings.deny ∧ name ∉ allow)

instance : DecidablePred (settings.Suppresses allow deny) := fun _ =>
  inferInstanceAs (Decidable (_ ∧ _))

instance : DecidablePred (settings.Promotes allow deny) := fun _ =>
  inferInstanceAs (Decidable (_ ∧ _))

theorem mem_allow_iff_suppresses :
    name ∈ (settings.overriddenBy allow deny).allow ↔ settings.Suppresses allow deny name := by
  rw [mem_allow_overriddenBy]
  unfold Suppresses
  tauto

/-- A rule that is both allowed and denied is passed over. -/
theorem not_mem_allow_and_mem_deny_iff_promotes :
    name ∉ (settings.overriddenBy allow deny).allow ∧
        name ∈ (settings.overriddenBy allow deny).deny ↔
      settings.Promotes allow deny name := by
  rw [mem_allow_iff_suppresses, mem_deny_overriddenBy]
  unfold Promotes
  tauto

end LintSettings

open LintSettings

/-- What is reported of diagnostics when names of rules are allowed and denied. -/
def releveled (settings : LintSettings) (allow deny : List String) (diagnostics : List Diagnostic) :
    List Diagnostic :=
  (diagnostics.filter fun diagnostic => ¬settings.Suppresses allow deny diagnostic.rule).map
    fun diagnostic =>
      if settings.Promotes allow deny diagnostic.rule then { diagnostic with severity := .error }
      else diagnostic

variable {settings : LintSettings} {allow deny : List String} {store : CacheStore}
variable {limit : Nat} {threshold : Float} {finding : Finding}

/-- A diagnostic of a standing rule carries the name of the rule. -/
theorem Finding.rule_eq_of_mem_ofCalls {sites : List CallSite} {catalog : Catalog}
    (found : finding ∈ ofCalls (Rule.standing limit threshold) store sites catalog) :
    finding.diagnostic.rule = finding.rule.name := by
  induction sites generalizing catalog with
  | nil => cases found
  | cons site rest ih =>
      rw [ofCalls] at found
      split at found
      · exact ih found
      · rcases List.mem_append.mp found with here | later
        · obtain ⟨rule, standing, judged⟩ := List.mem_filterMap.mp here
          obtain ⟨fault, rfl⟩ := CallFault.exists_rule_eq standing
          obtain ⟨diagnostic, given, rfl⟩ := Option.map_eq_some_iff.mp judged
          exact (CallFault.reportedBy_of_judged given).rule_eq
        · exact ih later

theorem map_promoted_eq_releveled {findings : List Finding}
    (named : ∀ finding ∈ findings, finding.diagnostic.rule = finding.rule.name) :
    (findings.filter fun finding =>
        finding.rule.name ∉ (settings.overriddenBy allow deny).allow).map
      (Finding.promoted (settings.overriddenBy allow deny).deny) =
      releveled settings allow deny (findings.map Finding.diagnostic) := by
  unfold releveled
  rw [List.filter_map, List.map_map]
  have kept : ∀ finding ∈ findings,
      decide (finding.rule.name ∉ (settings.overriddenBy allow deny).allow) =
        decide (¬settings.Suppresses allow deny finding.diagnostic.rule) := by
    intro finding member
    simp only [named finding member, mem_allow_iff_suppresses]
  rw [List.filter_congr kept]
  apply List.map_congr_left
  intro finding member
  obtain ⟨found, reported⟩ := List.mem_filter.mp member
  have notSuppressed := of_decide_eq_true reported
  have promotes : finding.rule.name ∈ (settings.overriddenBy allow deny).deny ↔
      settings.Promotes allow deny finding.diagnostic.rule := by
    rw [named finding found, ← mem_allow_iff_suppresses] at notSuppressed
    rw [named finding found, ← not_mem_allow_and_mem_deny_iff_promotes]
    exact (and_iff_right notSuppressed).symm
  simp [Finding.promoted, promotes]

namespace Engine

/-- A check under settings and flags finds what it finds without them, at other levels. -/
theorem checkSource_overriddenBy (settings : LintSettings) (allow deny : List String)
    (store : CacheStore) (source : String) (catalog : Catalog) :
    let plain := (ofSettings { settings with allow := [], deny := [] }).checkSource store source
      catalog
    (ofSettings (settings.overriddenBy allow deny)).checkSource store source catalog =
      (releveled settings allow deny plain.1, plain.2) := by
  intro plain
  let rules := Rule.standing settings.maxSuggestions settings.similarityThreshold
  let findings := Finding.ofCalls rules store (scanCalls source) catalog
  have merged : ofSettings (settings.overriddenBy allow deny) =
      ⟨rules, (settings.overriddenBy allow deny).allow,
        (settings.overriddenBy allow deny).deny⟩ := by
    rw [ofSettings, overriddenBy_others.1, overriddenBy_others.2]
  have plainEq : plain.1 = findings.map Finding.diagnostic := by
    refine (checkCalls_fst_eq_reported rules [] [] store (scanCalls source) catalog).trans ?_
    simp [Finding.promoted, findings]
  refine Prod.ext ?_ (checkCalls_snd_eq _ _ store (scanCalls source) catalog)
  rw [merged, plainEq]
  refine (checkCalls_fst_eq_reported ..).trans (map_promoted_eq_releveled ?_)
  exact fun finding found => Finding.rule_eq_of_mem_ofCalls found

end Engine

namespace Check

theorem checkFiles_overriddenBy (settings : LintSettings) (allow deny : List String)
    (store : CacheStore) (readText : String → Except FileError String) (files : List String)
    (catalog : Catalog) :
    checkFiles (.ofSettings (settings.overriddenBy allow deny)) store readText files catalog =
      (checkFiles (.ofSettings { settings with allow := [], deny := [] }) store readText files
        catalog).map (List.map fun report =>
          { report with diagnostics := releveled settings allow deny report.diagnostics }) := by
  induction files generalizing catalog with
  | nil => rfl
  | cons path rest ih =>
      rw [checkFiles, checkFiles]
      cases readText path with
      | error cause => rfl
      | ok source =>
          dsimp only
          rw [Engine.checkSource_overriddenBy, ih]
          cases checkFiles (.ofSettings { settings with allow := [], deny := [] }) store readText
            rest _ <;> rfl

end Check

/-- In a check a rule is passed over if and only if no flag denies it and a flag or the settings
allow it.  Of the others a rule is promoted if and only if a flag denies it, or the settings deny it
and no flag allows it.  The reports are those of a check without any of the four lists, less what
the rules that are passed over have found, and with errors for what the promoted rules have found.
In the merged settings the two lists share the names that both lists of the settings name and no
flag does, and no others; everything else is as it was, and giving the same flags once more changes
neither list as a set. -/
theorem check_levels_under_flags (surroundings : Surroundings) (options : Check.Options)
    (project : Project) (store : CacheStore) :
    let settings := project.settings.lint
    let allow := options.allow
    let deny := options.deny
    let merged := settings.overriddenBy allow deny
    let plainProject : Project := { project with
      settings := { project.settings with lint := { settings with allow := [], deny := [] } } }
    let plain := Check.checkProject surroundings { options with allow := [], deny := [] }
      plainProject store
    (Check.checkProject surroundings options project store).reports =
        plain.reports.map (List.map fun report =>
          { report with diagnostics := releveled settings allow deny report.diagnostics }) ∧
      (∀ name, name ∈ merged.allow ↔ settings.Suppresses allow deny name) ∧
      (∀ name, name ∉ merged.allow ∧ name ∈ merged.deny ↔ settings.Promotes allow deny name) ∧
      (∀ name, name ∈ merged.allow ∧ name ∈ merged.deny ↔
        name ∈ settings.allow ∧ name ∈ settings.deny ∧ name ∉ allow ∧ name ∉ deny) ∧
      merged.maxSuggestions = settings.maxSuggestions ∧
      merged.similarityThreshold = settings.similarityThreshold ∧
      (∀ name, name ∈ (merged.overriddenBy allow deny).allow ↔ name ∈ merged.allow) ∧
      (∀ name, name ∈ (merged.overriddenBy allow deny).deny ↔ name ∈ merged.deny) := by
  intro settings allow deny merged plainProject plain
  refine ⟨?_, fun name => mem_allow_iff_suppresses,
    fun name => not_mem_allow_and_mem_deny_iff_promotes, ?_, overriddenBy_others.1,
    overriddenBy_others.2, ?_, ?_⟩
  · have noFlags : plainProject.settings.lint.overriddenBy [] [] =
        { settings with allow := [], deny := [] } := rfl
    simp only [plain, Check.checkProject, noFlags]
    cases Discovery.scripts surroundings.files surroundings.here surroundings.home
        (if options.paths.isEmpty then [project.directory] else options.paths) with
    | error cause => rfl
    | ok files => exact Check.checkFiles_overriddenBy ..
  · intro name
    rw [mem_allow_overriddenBy, mem_deny_overriddenBy]
    tauto
  · intro name
    simp only [merged, mem_allow_overriddenBy]
    tauto
  · intro name
    simp only [merged, mem_deny_overriddenBy]
    tauto

end ScriptLint
