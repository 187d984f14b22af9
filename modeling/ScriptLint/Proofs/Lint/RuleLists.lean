import ScriptLint.Lint.Engine

/-!
# Allowed and denied rules

The lists of allowed and denied rules act on the findings of a check and on nothing else.  Findings
of allowed rules are left out, the remaining ones of denied rules become errors, and everything
else stays as it is without lists.

To say so, a finding is kept with the rule that it comes from: the name that a diagnostic carries
is the rule's own choice, while the lists name rules.
-/

namespace ScriptLint

/-- A diagnostic with the rule that gave it. -/
structure Finding where
  rule : Rule
  diagnostic : Diagnostic

namespace Finding

/-- What rules find wrong with a call, in the order of the rules. -/
def ofCall (rules : List Rule) (site : CallSite) (methods : Option MethodTable) : List Finding :=
  rules.filterMap fun rule => (rule.judge site methods).map (Finding.mk rule)

/-- What rules find wrong with a list of calls, whose tables are looked up one after the other. -/
def ofCalls (rules : List Rule) (store : CacheStore) : List CallSite → Catalog → List Finding
  | [], _ => []
  | site :: rest, catalog =>
    match TrackedClass.ofName? site.className with
    | none => ofCalls rules store rest catalog
    | some trackedClass =>
      let (methods, later) := catalog.lookUp store trackedClass
      ofCall rules site methods ++ ofCalls rules store rest later

/-- The diagnostic of a finding, which is an error if the rule is denied. -/
def promoted (denied : List String) (finding : Finding) : Diagnostic :=
  if finding.rule.name ∈ denied then { finding.diagnostic with severity := .error }
  else finding.diagnostic

variable {rules : List Rule} {finding : Finding}

theorem rule_mem_of_mem_ofCall {site : CallSite} {methods : Option MethodTable}
    (found : finding ∈ ofCall rules site methods) : finding.rule ∈ rules := by
  obtain ⟨rule, ruleMem, judged⟩ := List.mem_filterMap.mp found
  obtain ⟨diagnostic, -, rfl⟩ := Option.map_eq_some_iff.mp judged
  exact ruleMem

theorem rule_mem_of_mem_ofCalls {store : CacheStore} {sites : List CallSite} {catalog : Catalog}
    (found : finding ∈ ofCalls rules store sites catalog) : finding.rule ∈ rules := by
  induction sites generalizing catalog with
  | nil => cases found
  | cons site rest ih =>
      rw [ofCalls] at found
      split at found
      · exact ih found
      · rcases List.mem_append.mp found with here | later
        · exact rule_mem_of_mem_ofCall here
        · exact ih later

end Finding

namespace Engine

variable (rules : List Rule) (allowed denied : List String)

theorem judge_eq_reported (site : CallSite) (methods : Option MethodTable) :
    judge ⟨rules, allowed, denied⟩ site methods =
      ((Finding.ofCall rules site methods).filter fun finding => finding.rule.name ∉ allowed).map
        (Finding.promoted denied) := by
  induction rules with
  | nil => rfl
  | cons rule rest ih =>
      have head : apply ⟨rule :: rest, allowed, denied⟩ site methods =
          apply ⟨rest, allowed, denied⟩ site methods := rfl
      simp only [judge, Finding.ofCall] at ih ⊢
      rw [List.filterMap_cons, List.filterMap_cons, head]
      cases judged : rule.judge site methods with
      | none => simp [apply, judged, ih]
      | some diagnostic =>
          by_cases passedOver : rule.name ∈ allowed
          · simp [apply, passedOver, ih]
          · simp [apply, judged, passedOver, ih, Finding.promoted]

theorem checkCalls_snd_eq (first second : Engine) (store : CacheStore) (sites : List CallSite)
    (catalog : Catalog) :
    (first.checkCalls store sites catalog).2 = (second.checkCalls store sites catalog).2 := by
  induction sites generalizing catalog with
  | nil => rfl
  | cons site rest ih =>
      rw [checkCalls, checkCalls]
      split
      · exact ih catalog
      · exact ih _

theorem checkCalls_fst_eq_reported (store : CacheStore) (sites : List CallSite)
    (catalog : Catalog) :
    (checkCalls ⟨rules, allowed, denied⟩ store sites catalog).1 =
      ((Finding.ofCalls rules store sites catalog).filter fun finding =>
        finding.rule.name ∉ allowed).map (Finding.promoted denied) := by
  induction sites generalizing catalog with
  | nil => rfl
  | cons site rest ih =>
      rw [checkCalls, Finding.ofCalls]
      cases TrackedClass.ofName? site.className with
      | none => exact ih catalog
      | some trackedClass =>
          dsimp only
          rw [judge_eq_reported, ih, List.filter_append, List.map_append]

end Engine

/-- Under lists of allowed and denied rules a check reports what it finds without lists, except that
the findings of allowed rules are left out and those of other denied rules are errors.  What it
loads is the same.  Only the names of the rules in the lists count: lists that allow the same rules,
and of the others deny the same, have the same effect. -/
theorem checkSource_lists_filter_and_promote (rules : List Rule) (allowed denied : List String)
    (store : CacheStore) (source : String) (catalog : Catalog) :
    let findings := Finding.ofCalls rules store (scanCalls source) catalog
    let unlisted := Engine.checkSource ⟨rules, [], []⟩ store source catalog
    let listed := Engine.checkSource ⟨rules, allowed, denied⟩ store source catalog
    unlisted.1 = findings.map Finding.diagnostic ∧
      listed.1 = (findings.filter fun finding => finding.rule.name ∉ allowed).map
        (Finding.promoted denied) ∧
      listed.2 = unlisted.2 ∧
      ∀ otherAllowed otherDenied : List String,
        (∀ rule ∈ rules, rule.name ∈ otherAllowed ↔ rule.name ∈ allowed) →
        (∀ rule ∈ rules, rule.name ∉ allowed → (rule.name ∈ otherDenied ↔ rule.name ∈ denied)) →
        Engine.checkSource ⟨rules, otherAllowed, otherDenied⟩ store source catalog = listed := by
  intro findings unlisted listed
  refine ⟨?_, Engine.checkCalls_fst_eq_reported .., Engine.checkCalls_snd_eq .., ?_⟩
  · have asFound : Finding.promoted [] = Finding.diagnostic := by
      funext finding
      simp [Finding.promoted]
    have allKept : (findings.filter fun finding => finding.rule.name ∉ ([] : List String)) =
        findings := List.filter_eq_self.mpr (by simp)
    calc
      unlisted.1 = (findings.filter fun finding => finding.rule.name ∉ ([] : List String)).map
          (Finding.promoted []) := Engine.checkCalls_fst_eq_reported ..
      _ = findings.map Finding.diagnostic := by rw [allKept, asFound]
  · intro otherAllowed otherDenied sameAllowed sameDenied
    refine Prod.ext ?_ (Engine.checkCalls_snd_eq ..)
    refine (Engine.checkCalls_fst_eq_reported ..).trans
      (Eq.trans ?_ (Engine.checkCalls_fst_eq_reported ..).symm)
    have kept : ∀ finding ∈ findings,
        decide (finding.rule.name ∉ otherAllowed) = decide (finding.rule.name ∉ allowed) :=
      fun finding found => by
        simp [sameAllowed finding.rule (Finding.rule_mem_of_mem_ofCalls found)]
    rw [List.filter_congr kept]
    refine List.map_congr_left fun finding member => ?_
    obtain ⟨found, notAllowed⟩ := List.mem_filter.mp member
    simp [Finding.promoted, sameDenied finding.rule (Finding.rule_mem_of_mem_ofCalls found)
      (of_decide_eq_true notAllowed)]

end ScriptLint
