import ScriptLint.Proofs.Docs.SignatureSearch
import ScriptLint.Proofs.Lint.StandingRules
import ScriptLint.Proofs.Script.ArgumentLists

/-!
# Calls written as documented

A signature ends at the first closing parenthesis, a call at the one that closes its arguments.
Where the parameters have no parentheses of their own both are the same, so the documentation and
a script count the same arguments, and a call that is written as documented is not reported.
-/

namespace ScriptLint

open Text

/-- The name of a tracked class has the shape of a class name in an anchor. -/
theorem TrackedClass.exists_name_eq (trackedClass : TrackedClass) :
    ∃ capital later, trackedClass.name.toList = 'G' :: 'S' :: capital :: later ∧
      capital.isUpper ∧ ∀ c ∈ later, isNameChar c := by
  cases trackedClass <;> exact ⟨_, _, rfl, by decide, List.all_eq_true.mp (by decide)⟩

/-- A method with its parameters as the documentation lists them. -/
structure DocumentedMethod where
  name : String
  parameters : String
  isIdentifier_name : IsIdentifier name.toList
  unopened : '(' ∉ parameters.toList
  unclosed : ')' ∉ parameters.toList

namespace DocumentedMethod

def arity (method : DocumentedMethod) : Nat :=
  Arity.ofArguments method.parameters.toList

def signature (method : DocumentedMethod) : Signature :=
  ⟨method.name, method.arity⟩

/-- The name and the parameters, with a gap before the opening parenthesis. -/
def written (method : DocumentedMethod) (gap : String) : String :=
  method.name ++ gap ++ "(" ++ method.parameters ++ ")"

variable (method : DocumentedMethod)

theorem parse?_written {before gap : String} (blank : ∀ c ∈ gap.toList, isBlank c)
    (unopened : '(' ∉ before.toList) (ends : ∀ c ∈ before.toList.getLast?, isWordChar c = false)
    (after : String) :
    Signature.parse? (before ++ method.written gap ++ after) = some method.signature := by
  have parsed := Signature.parse?_written method.isIdentifier_name blank method.unclosed unopened
    ends after
  simpa only [written, signature, arity, String.append_assoc] using parsed

def anchor (trackedClass : TrackedClass) (gap : String) : Anchor :=
  ⟨trackedClass.name.toList, method.name.toList, gap.toList⟩

theorem anchor_isWellFormed (trackedClass : TrackedClass) {gap : String}
    (blank : ∀ c ∈ gap.toList, isBlank c) : (method.anchor trackedClass gap).IsWellFormed where
  classShape := trackedClass.exists_name_eq
  methodShape := method.isIdentifier_name
  gapShape := blank

/-- A script that begins with a call of the method, written as documented, has that call first, with
the documented number of arguments. -/
theorem scanCalls_written (trackedClass : TrackedClass) {gap : String}
    (blank : ∀ c ∈ gap.toList, isBlank c) (rest : String) :
    ∃ later, scanCalls (trackedClass.name ++ "." ++ method.written gap ++ rest) =
      ⟨trackedClass.name, method.name, method.arity, 1, 1, 0⟩ :: later := by
  have textEq : (trackedClass.name ++ "." ++ method.written gap ++ rest).toList =
      (method.anchor trackedClass gap).chars ++
        (method.parameters.toList ++ ')' :: rest.toList) := by
    simp [written, anchor, Anchor.chars]
  have parsed := Anchor.parse?_chars_append (method.anchor_isWellFormed trackedClass blank)
    (method.parameters.toList ++ ')' :: rest.toList)
  rw [← textEq] at parsed
  obtain ⟨later, scanned⟩ := scanCalls_of_parse? parsed
  refine ⟨later, scanned.trans (congrArg (· :: later) ?_)⟩
  simp only [CallSite.ofAnchor, LineIndex.lineCol_ofText_zero, anchor, String.ofList_toList,
    ArgumentList.arity, ArgumentList.inner_scan method.unopened method.unclosed, arity]

end DocumentedMethod

/-- A signature is found in any text that has it behind something that neither opens a parenthesis
nor runs into its name.  A script that begins with a call of the method, written with the same
parameters, has that call first, with as many arguments.  So the call is not reported, whatever the
settings, when the table of the class allows the signature that was found. -/
theorem documented_call_is_accepted (trackedClass : TrackedClass) (method : DocumentedMethod)
    (before gap after callGap rest : String) (blank : ∀ c ∈ gap.toList, isBlank c)
    (callBlank : ∀ c ∈ callGap.toList, isBlank c) (unopened : '(' ∉ before.toList)
    (ends : ∀ c ∈ before.toList.getLast?, isWordChar c = false) :
    let fragment := before ++ method.written gap ++ after
    let script := trackedClass.name ++ "." ++ method.written callGap ++ rest
    Signature.parse? fragment = some ⟨method.name, Arity.ofArguments method.parameters.toList⟩ ∧
      (∃ later, scanCalls script =
        ⟨trackedClass.name, method.name, Arity.ofArguments method.parameters.toList, 1, 1, 0⟩ ::
          later) ∧
      ∀ (store : CacheStore) (catalog : Catalog) (table : MethodTable) (signature : Signature),
        (catalog.get store trackedClass.name).1 = some table →
        Signature.parse? fragment = some signature →
        table.allows signature.name signature.arity →
        ∀ settings, ∀ diagnostic ∈
            ((Engine.ofSettings settings).checkSource store script catalog).1,
          diagnostic.location ≠ ⟨1, 1⟩ := by
  intro fragment script
  have documented := method.parse?_written blank unopened ends after
  obtain ⟨later, scanned⟩ := method.scanCalls_written trackedClass callBlank rest
  refine ⟨documented, ⟨later, scanned⟩, ?_⟩
  intro store catalog table signature known parsed allowed settings diagnostic member atFront
  obtain rfl : method.signature = signature := Option.some.inj (documented.symm.trans parsed)
  rw [Engine.checkSource, Engine.checkCalls_fst] at member
  obtain ⟨site, siteMem, judged⟩ := List.mem_flatMap.mp member
  have firstMem : ⟨trackedClass.name, method.name, method.arity, 1, 1, 0⟩ ∈ scanCalls script :=
    scanned ▸ List.mem_cons_self
  split at judged
  next => cases judged
  next siteClass tracked =>
    obtain ⟨location, fault, faulty⟩ := Engine.exists_fault_of_mem_judge judged
    -- Only the first call stands at the front, and that one has no fault.
    obtain rfl := eq_of_location_eq siteMem firstMem (location.symm.trans atFront)
    rw [TrackedClass.ofName?_name, Option.some.injEq] at tracked
    subst tracked
    rw [Catalog.get, TrackedClass.ofName?_name, Catalog.lookUp_fst] at known
    rw [known, CallFault.of?_eq_none_iff.mpr ⟨table, rfl, allowed⟩] at faulty
    cases faulty

/-- The method `New` with two parameters. -/
def newMethod : DocumentedMethod where
  name := "New"
  parameters := "Company company, Text goal"
  isIdentifier_name := ⟨'N', ['e', 'w'], rfl, by decide, List.all_eq_true.mp (by decide)⟩
  unopened := by decide
  unclosed := by decide

theorem documented_call_is_accepted_newMethod :
    Signature.parse? "GoalID GSGoal::New (Company company, Text goal) [static]" =
        some ⟨"New", 2⟩ ∧
      ∀ diagnostic ∈ ((Engine.ofSettings ⟨[], ["arity-mismatch"], 3, 0.6⟩).checkSource
          ⟨"cache", .absent⟩ "GSGoal.New\n\t(Company company, Text goal); GSGoal.New(1)"
          (Catalog.unloaded.install .goal (.ofPairs [("New", 2)]))).1,
        diagnostic.location ≠ ⟨1, 1⟩ := by
  have ends : ∀ c ∈ "GoalID GSGoal::".toList.getLast?, isWordChar c = false := by
    rintro c ⟨⟩
    decide
  obtain ⟨parsed, -, accepted⟩ := documented_call_is_accepted .goal newMethod "GoalID GSGoal::" " "
    " [static]" "\n\t" "; GSGoal.New(1)" (List.all_eq_true.mp (by decide))
    (List.all_eq_true.mp (by decide)) (by decide) ends
  have counted : Arity.ofArguments newMethod.parameters.toList = 2 := by decide
  rw [counted] at parsed
  exact ⟨parsed, accepted _ _ (.ofPairs [("New", 2)]) _ rfl parsed (by decide) _⟩

end ScriptLint
