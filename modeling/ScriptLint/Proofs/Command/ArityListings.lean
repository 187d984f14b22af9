import ScriptLint.Proofs.Command.ShownMethods
import ScriptLint.Proofs.Json.DecodedRecord
import ScriptLint.Proofs.Table.ChangedTables

/-!
# Listed numbers of arguments

The numbers of arguments that a method takes are listed in two places: in what is said of a call
with another number, and where the methods of the class are shown.  Both are the same text.  The
numbers are read back from it, all of them and in ascending order, so the listing tells what the
changes of the table have added up to.
-/

namespace ScriptLint

open Text

/-- The number that a text of decimal digits stands for. -/
def decimal? (digits : List Char) : Option Nat :=
  if !digits.isEmpty && digits.all Char.isDigit then some (Nat.ofDigitChars 10 digits 0) else none

theorem decimal?_toString (n : Nat) : decimal? (toString n).toList = some n := by
  have digits : (toString n).toList = Nat.toDigits 10 n := by simp
  have decimal : (!(Nat.toDigits 10 n).isEmpty && (Nat.toDigits 10 n).all Char.isDigit) = true := by
    simpa [Nat.toDigits_ne_nil] using isDigit_of_mem_toDigits n
  rw [digits, decimal?, if_pos decimal, Nat.ofDigitChars_ten_toDigits]

/-- The numbers that stand between the slashes of a listing. -/
def readListing? (listing : String) : Option (List Nat) :=
  (listing.toList.splitOn '/').mapM decimal?

theorem readListing?_listing {arities : AritySet} (documented : arities.toList ≠ []) :
    readListing? arities.listing = some arities.toList := by
  have divided : arities.listing.toList.splitOn '/' =
      arities.toList.map fun arity => (toString arity).toList :=
    Show.splitOn_arityListing documented
  have numbers : (arities.toList.map fun arity => (toString arity).toList).mapM decimal? =
      some (arities.toList.map id) :=
    Json.mapM_map_eq_some fun arity _ => decimal?_toString arity
  rw [readListing?, divided, numbers, List.map_id]

/-- A listing is in the order of the numbers, not in that of their digits. -/
example : readListing? (AritySet.ofList [10, 2, 4, 2]).listing = some [2, 4, 10] :=
  readListing?_listing (by decide)

namespace Show

variable {environment : Environment} {project : Project} {entry : CacheEntry}
variable {loadProject : Surroundings → Except SettingsError Project}

theorem output_run (loads : loadProject environment.surroundings = .ok project) (verbose : Bool)
    {trackedClass : TrackedClass}
    (usable : (environment.store project).readUsable? trackedClass.name = some entry) :
    (run environment verbose loadProject trackedClass.name).output =
      Outcome.linesText (listing trackedClass.name entry.methods) := by
  simp only [run, TrackedClass.ofName?_name, loads, entryOutcome, usable]

/-- The lines of the methods stand behind that of the class, in the order of their names. -/
theorem exists_line_of_arities? {table : MethodTable} {name : String} {arities : AritySet}
    (known : table.arities? name = some arities) (className : String) :
    ∃ index, table.names[index]? = some name ∧
      (listing className table)[index + 1]? = some (methodLine name arities.listing) := by
  obtain ⟨index, entryAt⟩ :=
    List.mem_iff_getElem?.mp (MethodTable.arities?_eq_some_iff.mp known)
  refine ⟨index, by simp [MethodTable.names, entryAt], ?_⟩
  have lineEq : "  - " ++ methodText name arities = methodLine name arities.listing := by
    simp only [methodText, methodLine, String.append_assoc]
    rfl
  simp [listing, entryAt, lineEq]

end Show

section Findings

variable {site : CallSite} {table : MethodTable} {finding : Diagnostic}

theorem Rule.exists_judge_arityMismatch {arities : AritySet}
    (known : table.arities? site.methodName = some arities)
    (excluded : site.arity ∉ arities.toList) :
    ∃ finding, arityMismatch.judge site (some table) = some finding ∧
      finding.message =
        "Invalid arity for " ++ site.className ++ "." ++ site.methodName ++ " -> " ++
          toString site.arity ++ " args (allowed: " ++ arities.listing ++ ")" := by
  have uncontained : arities.contains site.arity = false := by
    simpa [AritySet.contains] using excluded
  simp [arityMismatch, known, uncontained]

/-- What is found wrong with the number of arguments of a call stands in the check of its script. -/
theorem Engine.mem_checkSource_of_judged {store : CacheStore} {trackedClass : TrackedClass}
    (known : (Catalog.unloaded.get store trackedClass.name).1 = some table)
    (judged : Rule.arityMismatch.judge site (some table) = some finding) {source : String}
    (member : site ∈ scanCalls source) (named : site.className = trackedClass.name) (limit : Nat)
    (threshold : Float) :
    finding ∈ ((ofSettings ⟨[], [], limit, threshold⟩).checkSource store source .unloaded).1 := by
  have judgedByRule :
      (CallFault.wrongArity.rule limit threshold).judge site (some table) = some finding := judged
  have faulty : CallFault.of? site (some table) = some .wrongArity :=
    CallFault.isSome_judge_rule_iff.mp (Option.isSome_of_eq_some judgedByRule)
  refine mem_checkSource_iff.mpr ⟨site, member, .wrongArity, ?_, ?_⟩
  · rw [CallFault.find?_of_className_eq named, known, faulty]
  · rw [named, known]
    exact CallFault.reportedBy_of_judged judgedByRule

end Findings

open MethodTable in
/-- After any changes of the table without methods, a call of a method that takes some numbers of
arguments, but not as many as it is given, is reported with a listing behind its own number.  From
the listing one reads the numbers that the changes have added up to for the method, all of them, in
ascending order, and the number of the call is not among them.  Where a class with this table is
shown, the line of the method has the same listing, and the report stands in every check of a script
with the call. -/
theorem arity_listing_is_complete {changes : List Change} {table : MethodTable}
    (reached : changes.foldl Change.apply .empty = table) {site : CallSite}
    (documented : ∃ arity, table.allows site.methodName arity)
    (mismatched : ¬table.allows site.methodName site.arity) :
    ∃ listed given numbers finding,
      Rule.arityMismatch.judge site (some table) = some finding ∧
        finding.code = ⟨.error, 2⟩ ∧
        finding.message =
          "Invalid arity for " ++ site.className ++ "." ++ site.methodName ++ " -> " ++ given ++
            " args (allowed: " ++ listed ++ ")" ∧
        decimal? given.toList = some site.arity ∧
        readListing? listed = some numbers ∧
        numbers.Pairwise (· < ·) ∧
        (∀ arity, arity ∈ numbers ↔ table.allows site.methodName arity) ∧
        (∀ arity, arity ∈ numbers ↔ Change.allowedAfter changes site.methodName arity) ∧
        site.arity ∉ numbers ∧
        ∀ (environment : Environment) (project : Project)
          (loadProject : Surroundings → Except SettingsError Project) (trackedClass : TrackedClass)
          (entry : CacheEntry),
          loadProject environment.surroundings = .ok project →
          (environment.store project).readUsable? trackedClass.name = some entry →
          entry.methods = table →
          (∀ verbose,
            (Show.run environment verbose loadProject trackedClass.name).output =
                Outcome.linesText (Show.listing trackedClass.name table) ∧
              ∃ index, table.names[index]? = some site.methodName ∧
                (Show.listing trackedClass.name table)[index + 1]? =
                  some ("  - " ++ site.methodName ++ "(" ++ listed ++ ")")) ∧
          ∀ limit threshold source, site ∈ scanCalls source →
            site.className = trackedClass.name →
            finding ∈ ((Engine.ofSettings ⟨[], [], limit, threshold⟩).checkSource
              (environment.store project) source .unloaded).1 := by
  obtain ⟨taken, allowed⟩ := documented
  obtain ⟨arities, inTable, inSet⟩ := allows_iff.mp allowed
  have known : table.arities? site.methodName = some arities := arities?_eq_some_iff.mpr inTable
  have allows : ∀ arity, arity ∈ arities.toList ↔ table.allows site.methodName arity := fun _ =>
    (allows_of_mem inTable).symm
  have excluded : site.arity ∉ arities.toList := fun member => mismatched ((allows _).mp member)
  obtain ⟨finding, judged, message⟩ := Rule.exists_judge_arityMismatch known excluded
  have reported : CallFault.wrongArity.ReportedBy 0 0 site (some table) finding :=
    CallFault.reportedBy_of_judged judged
  refine ⟨arities.listing, toString site.arity, arities.toList, finding, judged, reported.code_eq,
    message, decimal?_toString site.arity, readListing?_listing (List.ne_nil_of_mem inSet),
    arities.ascending, allows, ?_, excluded, ?_⟩
  · intro arity
    rw [allows, ← reached, Change.allows_iff_allowedAfter]
  · intro environment project loadProject trackedClass entry loads usable methodsEq
    subst methodsEq
    constructor
    · intro verbose
      exact ⟨Show.output_run loads verbose usable,
        Show.exists_line_of_arities? known trackedClass.name⟩
    · intro limit threshold source member named
      have tableEq : (Catalog.unloaded.get (environment.store project) trackedClass.name).1 =
          some entry.methods := by
        rw [Catalog.get_unloaded, usable, Option.map_some]
      exact Engine.mem_checkSource_of_judged tableEq judged member named limit threshold

/-- Changes that add up to what the older file of the class holds. -/
def olderChanges : List MethodTable.Change :=
  [.collect [("Old", 0)], .decode "\x7b\"New\":[10],\"New\":[4,2,4]\x7d", .insert "GetOwner" 1,
    .merge (.ofPairs [("New", 2)])]

theorem arity_listing_is_complete_olderChanges :
    let table := Show.olderEntry.methods
    let call : CallSite := ⟨"GSGoal", "New", 3, 1, 1, 0⟩
    olderChanges.foldl MethodTable.Change.apply .empty = table ∧ table.allows "New" 4 ∧
      ¬table.allows "New" 3 ∧
      ∃ finding,
        Rule.arityMismatch.judge call (some table) = some finding ∧
          finding.message = "Invalid arity for GSGoal.New -> 3 args (allowed: 2/4)" ∧
          (∀ arity, MethodTable.Change.allowedAfter olderChanges "New" arity ↔
            arity ∈ [2, 4]) ∧
          (Show.run Show.olderCache false (fun _ => .ok Show.olderProject) "GSGoal").output =
            "GSGoal:\n  - GetOwner(1)\n  - New(2/4)\n" ∧
          finding ∈ ((Engine.ofSettings .standard).checkSource
            (Show.olderCache.store Show.olderProject) "GSGoal.New(a, b, c)" .unloaded).1 := by
  intro table call
  have reached : olderChanges.foldl MethodTable.Change.apply .empty = table := by decide +kernel
  have allowed : table.allows "New" 4 := by decide
  have mismatched : ¬table.allows "New" 3 := by decide
  obtain ⟨_, _, _, finding, judged, -, -, -, -, -, allows, addedUp, -, shownAndChecked⟩ :=
    @arity_listing_is_complete olderChanges table reached call ⟨4, allowed⟩ mismatched
  have message : (Rule.arityMismatch.judge call (some table)).map Diagnostic.message =
      some "Invalid arity for GSGoal.New -> 3 args (allowed: 2/4)" := by decide
  have inTable : ("New", AritySet.ofList [2, 4]) ∈ table.entries := by decide
  have read := Show.read_olderCache
  rw [Catalog.get_unloaded] at read
  obtain ⟨entry, usable, methodsEq⟩ := Option.map_eq_some_iff.mp read
  obtain ⟨shown, checked⟩ := shownAndChecked Show.olderCache Show.olderProject
    (fun _ => .ok Show.olderProject) .goal entry rfl usable methodsEq
  refine ⟨reached, allowed, mismatched, finding, judged, ?_, ?_, ?_, ?_⟩
  · rw [judged] at message
    exact Option.some.inj message
  · intro arity
    rw [← addedUp, allows, MethodTable.allows_of_mem inTable, AritySet.mem_toList_ofList]
  · exact (shown false).1.trans (by decide)
  · have scanned : scanCalls "GSGoal.New(a, b, c)" = [call] := by decide +kernel
    exact checked _ _ _ (scanned ▸ List.mem_cons_self) rfl

end ScriptLint
