import Mathlib.Data.List.Nodup
import ScriptLint.Lint.Engine
import ScriptLint.Proofs.Cache.CatalogLookUp
import ScriptLint.Proofs.Script.CallScan
import ScriptLint.Proofs.Script.LinePositions

/-!
# What the standing rules report

A call of a tracked class has at most one fault: its class has no table, the table lacks the method,
or the method does not take that many arguments.  The three standing rules divide the faults among
them, so a check reports every call with a fault once and no other call.
-/

namespace ScriptLint

/-- How a call of a tracked class can fall short of the documentation. -/
inductive CallFault where
  /-- The class has no table. -/
  | noTable
  /-- The table lacks the method. -/
  | unknownMethod
  /-- The method does not take so many arguments. -/
  | wrongArity
deriving DecidableEq

namespace CallFault

/-- The fault of a call, given the table of its class. -/
def of? (site : CallSite) : Option MethodTable → Option CallFault
  | none => some noTable
  | some table =>
    match table.arities? site.methodName with
    | none => some unknownMethod
    | some arities => if site.arity ∈ arities.toList then none else some wrongArity

/-- The code under which a fault is reported. -/
def code : CallFault → DiagnosticCode
  | noTable => ⟨.warning, 1⟩
  | unknownMethod => ⟨.error, 1⟩
  | wrongArity => ⟨.error, 2⟩

/-- How severe a fault is. -/
def severity : CallFault → Severity
  | noTable => .warning
  | unknownMethod | wrongArity => .error

/-- The rule that finds a fault. -/
def rule (limit : Nat) (threshold : Float) : CallFault → Rule
  | noTable => .docsUnavailable
  | unknownMethod => .unknownMethod limit threshold
  | wrongArity => .arityMismatch

/-- A diagnostic that the rule for a fault gives for a call, with the code of the fault, at the
place of the call. -/
structure ReportedBy (fault : CallFault) (limit : Nat) (threshold : Float) (site : CallSite)
    (table : Option MethodTable) (diagnostic : Diagnostic) : Prop where
  judged : (fault.rule limit threshold).judge site table = some diagnostic
  rule_eq : diagnostic.rule = (fault.rule limit threshold).name
  code_eq : diagnostic.code = fault.code
  severity_eq : diagnostic.severity = fault.severity
  location_eq : diagnostic.location = site.location

variable {site : CallSite} {table : Option MethodTable} {fault : CallFault}
variable {limit : Nat} {threshold : Float}

/-- What the rule for a fault gives has the name of the rule and the code, the severity and the
place that belong to the fault. -/
theorem reportedBy_of_judged {diagnostic : Diagnostic}
    (judged : (fault.rule limit threshold).judge site table = some diagnostic) :
    fault.ReportedBy limit threshold site table diagnostic := by
  suffices parts : diagnostic.rule = (fault.rule limit threshold).name ∧
      diagnostic.code = fault.code ∧ diagnostic.severity = fault.severity ∧
      diagnostic.location = site.location from
    ⟨judged, parts.1, parts.2.1, parts.2.2.1, parts.2.2.2⟩
  cases fault with
  | noTable =>
      simp only [rule, Rule.docsUnavailable] at judged
      split at judged
      · cases judged
      · cases judged
        exact ⟨rfl, rfl, rfl, rfl⟩
  | unknownMethod =>
      simp only [rule, Rule.unknownMethod] at judged
      split at judged
      · cases judged
      · split_ifs at judged
        cases judged
        exact ⟨rfl, rfl, rfl, rfl⟩
  | wrongArity =>
      simp only [rule, Rule.arityMismatch] at judged
      split at judged
      · cases judged
      · split_ifs at judged
        cases judged
        exact ⟨rfl, rfl, rfl, rfl⟩

/-- The rule for a fault finds that fault and no other. -/
theorem isSome_judge_rule_iff :
    ((fault.rule limit threshold).judge site table).isSome ↔ of? site table = some fault := by
  cases table with
  | none => cases fault <;> simp [rule, Rule.docsUnavailable, Rule.unknownMethod,
      Rule.arityMismatch, of?]
  | some table =>
      cases known : table.arities? site.methodName with
      | none => cases fault <;> simp [rule, Rule.docsUnavailable, Rule.unknownMethod,
          Rule.arityMismatch, of?, MethodTable.contains, known]
      | some arities =>
          by_cases member : site.arity ∈ arities.toList
          · cases fault <;> simp [rule, Rule.docsUnavailable, Rule.unknownMethod,
              Rule.arityMismatch, of?, MethodTable.contains, AritySet.contains, known, member]
          · cases fault <;> simp [rule, Rule.docsUnavailable, Rule.unknownMethod,
              Rule.arityMismatch, of?, MethodTable.contains, AritySet.contains, known, member]

theorem judge_rule_eq_none (other : of? site table ≠ some fault) :
    (fault.rule limit threshold).judge site table = none := by
  rw [← Option.not_isSome_iff_eq_none, isSome_judge_rule_iff]
  exact other

theorem exists_reportedBy (limit : Nat) (threshold : Float)
    (found : of? site table = some fault) :
    ∃ diagnostic, fault.ReportedBy limit threshold site table diagnostic := by
  obtain ⟨diagnostic, judged⟩ :=
    Option.isSome_iff_exists.mp (isSome_judge_rule_iff.mpr found)
  exact ⟨diagnostic, reportedBy_of_judged judged⟩

/-- A call has no fault when its class has a table that allows it. -/
theorem of?_eq_none_iff :
    of? site table = none ↔
      ∃ methods, table = some methods ∧ methods.allows site.methodName site.arity := by
  cases table with
  | none => simp [of?]
  | some table =>
      cases known : table.arities? site.methodName with
      | none => simp [of?, MethodTable.allows, known]
      | some arities => simp [of?, MethodTable.allows, AritySet.contains, known]

theorem exists_rule_eq {rule : Rule} (standing : rule ∈ Rule.standing limit threshold) :
    ∃ fault : CallFault, rule = fault.rule limit threshold := by
  simp only [Rule.standing, List.mem_cons, List.not_mem_nil, or_false] at standing
  rcases standing with rfl | rfl | rfl
  · exact ⟨.noTable, rfl⟩
  · exact ⟨.unknownMethod, rfl⟩
  · exact ⟨.wrongArity, rfl⟩

end CallFault

namespace Engine

/-- A check of calls judges every call of a tracked class by the table that the catalog has for the
class at the beginning, whatever is loaded on the way. -/
theorem checkCalls_fst (engine : Engine) (store : CacheStore) (sites : List CallSite)
    (catalog : Catalog) :
    (engine.checkCalls store sites catalog).1 =
      sites.flatMap fun site =>
        match TrackedClass.ofName? site.className with
        | none => []
        | some trackedClass => engine.judge site (catalog.tableOf? store trackedClass) := by
  induction sites generalizing catalog with
  | nil => rfl
  | cons site rest ih =>
      rw [List.flatMap_cons, checkCalls]
      cases tracked : TrackedClass.ofName? site.className with
      | none =>
          dsimp only
          rw [ih, List.nil_append]
      | some trackedClass =>
          dsimp only
          rw [ih, Catalog.lookUp_fst]
          simp only [Catalog.tableOf?_lookUp]

theorem apply_of_no_lists (rules : List Rule) (site : CallSite) (table : Option MethodTable)
    (rule : Rule) : apply ⟨rules, [], []⟩ site table rule = rule.judge site table := by
  simp [apply]

/-- Of the standing rules only the one for the fault of a call finds anything. -/
theorem judge_standing (limit : Nat) (threshold : Float) (site : CallSite)
    (table : Option MethodTable) :
    (ofSettings ⟨[], [], limit, threshold⟩).judge site table =
      ((CallFault.of? site table).bind fun fault =>
        (fault.rule limit threshold).judge site table).toList := by
  have others : ∀ fault, CallFault.of? site table ≠ some fault →
      (fault.rule limit threshold).judge site table = none := fun fault =>
    CallFault.judge_rule_eq_none
  have noTable := others .noTable
  have unknownMethod := others .unknownMethod
  have wrongArity := others .wrongArity
  simp only [CallFault.rule] at noTable unknownMethod wrongArity
  simp only [judge, ofSettings, Rule.standing, apply_of_no_lists, List.filterMap_cons,
    List.filterMap_nil]
  cases found : CallFault.of? site table with
  | none =>
      rw [noTable (by simp [found]), unknownMethod (by simp [found]), wrongArity (by simp [found])]
      rfl
  | some fault =>
      obtain ⟨diagnostic, reported⟩ :=
        CallFault.exists_reportedBy limit threshold found
      have judged := reported.judged
      rw [Option.bind_some, judged]
      cases fault with
      | noTable =>
          rw [CallFault.rule] at judged
          rw [judged, unknownMethod (by simp [found]), wrongArity (by simp [found])]
          rfl
      | unknownMethod =>
          rw [CallFault.rule] at judged
          rw [judged, noTable (by simp [found]), wrongArity (by simp [found])]
          rfl
      | wrongArity =>
          rw [CallFault.rule] at judged
          rw [judged, noTable (by simp [found]), unknownMethod (by simp [found])]
          rfl

/-- Under any settings, what a check finds wrong with a call is a fault of the call, and the report
stands at the place of the call. -/
theorem exists_fault_of_mem_judge {settings : LintSettings} {site : CallSite}
    {table : Option MethodTable} {diagnostic : Diagnostic}
    (member : diagnostic ∈ (ofSettings settings).judge site table) :
    diagnostic.location = site.location ∧ ∃ fault, CallFault.of? site table = some fault := by
  obtain ⟨rule, standing, applied⟩ := List.mem_filterMap.mp member
  obtain ⟨fault, rfl⟩ := CallFault.exists_rule_eq standing
  rw [apply] at applied
  split at applied
  · cases applied
  · obtain ⟨found, judged, rfl⟩ := Option.map_eq_some_iff.mp applied
    have reported := CallFault.reportedBy_of_judged judged
    refine ⟨?_, fault, CallFault.isSome_judge_rule_iff.mp (Option.isSome_of_eq_some judged)⟩
    split
    · exact reported.location_eq
    · exact reported.location_eq

end Engine

theorem scanCalls_pairwise_location_lt (text : String) :
    (scanCalls text).Pairwise fun first second =>
      compare first.location second.location = .lt := by
  refine (scanCalls_pairwise_offset_lt text).imp_of_mem ?_
  intro first second firstMem secondMem lt
  have firstEq := position_eq_of_mem_scanCalls firstMem
  have secondEq := position_eq_of_mem_scanCalls secondMem
  have ordered := (LineIndex.ofText text.toList).lineCol_lt lt
  rw [← firstEq, ← secondEq] at ordered
  exact Location.compare_eq_lt_iff.mpr ordered

/-- Places tell the calls of a script apart. -/
theorem eq_of_location_eq {text : String} {first second : CallSite}
    (firstMem : first ∈ scanCalls text) (secondMem : second ∈ scanCalls text)
    (same : first.location = second.location) : first = second := by
  have distinct : ((scanCalls text).map CallSite.location).Nodup :=
    List.pairwise_map.mpr
      ((scanCalls_pairwise_location_lt text).imp Location.ne_of_compare_eq_lt)
  exact List.inj_on_of_nodup_map distinct firstMem secondMem same

namespace CallFault

/-- The fault of a call, given the store and the catalog over it.  A call of a class that is not
tracked has none. -/
def find? (store : CacheStore) (catalog : Catalog) (site : CallSite) : Option CallFault :=
  if (TrackedClass.ofName? site.className).isSome then
    of? site (catalog.get store site.className).1
  else none

end CallFault

/-- Every call with a fault has its report, in the order of the calls, and there is no other. -/
theorem Engine.forall₂_checkCalls (limit : Nat) (threshold : Float) (store : CacheStore)
    (sites : List CallSite) (catalog : Catalog) :
    List.Forall₂
      (fun site diagnostic => ∃ fault, CallFault.find? store catalog site = some fault ∧
        fault.ReportedBy limit threshold site (catalog.get store site.className).1 diagnostic)
      (sites.filter fun site => (CallFault.find? store catalog site).isSome)
      ((ofSettings ⟨[], [], limit, threshold⟩).checkCalls store sites catalog).1 := by
  rw [checkCalls_fst]
  induction sites with
  | nil => exact List.Forall₂.nil
  | cons site rest ih =>
      rw [List.flatMap_cons]
      cases tracked : TrackedClass.ofName? site.className with
      | none =>
          have faultless : CallFault.find? store catalog site = none := by
            simp [CallFault.find?, tracked]
          rw [List.filter_cons_of_neg (by simp [faultless])]
          exact ih
      | some trackedClass =>
          have tableEq : (catalog.get store site.className).1 =
              catalog.tableOf? store trackedClass := by
            rw [Catalog.get, tracked, Catalog.lookUp_fst]
          have faultEq : CallFault.find? store catalog site =
              CallFault.of? site (catalog.tableOf? store trackedClass) := by
            rw [CallFault.find?, tracked, tableEq]
            rfl
          dsimp only
          rw [judge_standing, ← faultEq]
          cases found : CallFault.find? store catalog site with
          | none =>
              rw [List.filter_cons_of_neg (by simp [found])]
              exact ih
          | some fault =>
              obtain ⟨diagnostic, reported⟩ := CallFault.exists_reportedBy limit threshold
                (faultEq.symm.trans found)
              rw [List.filter_cons_of_pos (by simp [found]), Option.bind_some, reported.judged]
              exact List.Forall₂.cons ⟨fault, found, tableEq ▸ reported⟩ ih

theorem CallFault.isSome_find?_iff {store : CacheStore} {catalog : Catalog} {site : CallSite} :
    (find? store catalog site).isSome ↔
      (TrackedClass.ofName? site.className).isSome ∧
        ¬ ∃ methods, (catalog.get store site.className).1 = some methods ∧
          methods.allows site.methodName site.arity := by
  rw [← of?_eq_none_iff, ← ne_eq, Option.ne_none_iff_isSome, find?]
  split_ifs with tracked
  · simp [tracked]
  · simp [tracked]

/-- A check by the standing rules reports, in the order of the calls, each call that has a fault,
once and for that fault: a call of a tracked class whose table does not allow it.  A documented call
and a call of a class that is not tracked are passed over in silence.  The places of the reports
ascend. -/
theorem checkSource_reports_each_fault_once (limit : Nat) (threshold : Float) (store : CacheStore)
    (source : String) (catalog : Catalog) :
    let table := fun site : CallSite => (catalog.get store site.className).1
    let reported :=
      ((Engine.ofSettings ⟨[], [], limit, threshold⟩).checkSource store source catalog).1
    List.Forall₂
        (fun site diagnostic => ∃ fault, CallFault.find? store catalog site = some fault ∧
          fault.ReportedBy limit threshold site (table site) diagnostic)
        ((scanCalls source).filter fun site => (CallFault.find? store catalog site).isSome)
        reported ∧
      (∀ site ∈ scanCalls source,
        (∃ diagnostic ∈ reported, diagnostic.location = site.location) ↔
          (TrackedClass.ofName? site.className).isSome ∧
            ¬ ∃ methods, table site = some methods ∧
              methods.allows site.methodName site.arity) ∧
      reported.Pairwise fun first second => compare first.location second.location = .lt := by
  intro table reported
  let faulted := fun site => (CallFault.find? store catalog site).isSome
  have paired := Engine.forall₂_checkCalls limit threshold store (scanCalls source) catalog
  have lengthEq := paired.length_eq
  refine ⟨paired, fun site siteMem => ?_, ?_⟩
  · rw [← CallFault.isSome_find?_iff]
    constructor
    · rintro ⟨diagnostic, diagnosticMem, samePlace⟩
      obtain ⟨index, indexLt, rfl⟩ := List.mem_iff_getElem.mp diagnosticMem
      obtain ⟨fault, found, reportedBy⟩ := paired.get (lengthEq ▸ indexLt) indexLt
      have faultyMem := List.getElem_mem (lengthEq ▸ indexLt)
      obtain ⟨otherMem, faulty⟩ := List.mem_filter.mp faultyMem
      have same := eq_of_location_eq otherMem siteMem
        (reportedBy.location_eq.symm.trans samePlace)
      exact same ▸ faulty
    · intro faulty
      obtain ⟨index, indexLt, siteEq⟩ :=
        List.mem_iff_getElem.mp (List.mem_filter (p := faulted).mpr ⟨siteMem, faulty⟩)
      obtain ⟨fault, found, reportedBy⟩ := paired.get indexLt (lengthEq ▸ indexLt)
      refine ⟨_, List.getElem_mem (lengthEq ▸ indexLt), ?_⟩
      exact reportedBy.location_eq.trans (congrArg CallSite.location siteEq)
  · have ordered := (scanCalls_pairwise_location_lt source).filter faulted
    refine pairwise_of_forall₂ (List.Forall₂.flip (R := flip _) paired) ordered ?_
    rintro first second firstSite secondSite ⟨_, _, firstBy⟩ ⟨_, _, secondBy⟩ before
    rwa [firstBy.location_eq, secondBy.location_eq]

end ScriptLint
