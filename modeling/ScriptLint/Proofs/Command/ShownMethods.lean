import ScriptLint.Command.Show
import ScriptLint.Proofs.Cache.EntryText
import ScriptLint.Proofs.Lint.DocumentedCalls
import ScriptLint.Proofs.Script.FoundScripts
import ScriptLint.Proofs.Table.Contents
import ScriptLint.Proofs.Text.ByteOrder
import ScriptLint.Proofs.Text.Digits

/-!
# What is shown and what is checked

The methods of a class are shown and its calls are checked by the same table.  Where no method has a
name that breaks its line, the lines that are shown can be read back one by one, so they tell which
calls a check passes over: those of a method with a line, with a number of arguments in this line.
-/

namespace ScriptLint

open Text

namespace Show

/-- The lines of a text, with the empty one behind the last line end. -/
def lines (text : String) : List (List Char) :=
  text.toList.splitOn '\n'

theorem lines_linesText {shown : List String} (unbroken : ∀ line ∈ shown, '\n' ∉ line.toList) :
    lines (Outcome.linesText shown) = shown.map String.toList ++ [[]] := by
  induction shown with
  | nil => rfl
  | cons line rest ih =>
      rw [List.forall_mem_cons] at unbroken
      have textEq : (Outcome.linesText (line :: rest)).toList =
          line.toList ++ '\n' :: (Outcome.linesText rest).toList := by
        simp [Outcome.linesText]
      rw [lines, textEq, List.splitOn_append_cons_self_of_not_mem unbroken.1, List.map_cons,
        List.cons_append]
      exact congrArg _ (ih unbroken.2)

/-- The line of a method with what it lists. -/
def methodLine (name listed : String) : String :=
  "  - " ++ name ++ "(" ++ listed ++ ")"

/-- Whether a text has a line for a method that lists a number of arguments. -/
def Lists (output name : String) (arity : Nat) : Prop :=
  ∃ listed, (methodLine name listed).toList ∈ lines output ∧
    (toString arity).toList ∈ listed.toList.splitOn '/'

theorem toList_arityListing (arities : AritySet) :
    (arityListing arities).toList =
      ['/'].intercalate (arities.toList.map fun arity => (toString arity).toList) := by
  simp [arityListing, Function.comp_def]

theorem not_mem_arityListing {mark : Char} (noDigit : mark.isDigit = false) (noSlash : mark ≠ '/')
    (arities : AritySet) : mark ∉ (arityListing arities).toList := by
  rw [toList_arityListing]
  induction arities.toList with
  | nil => simp
  | cons first rest ih =>
      cases rest with
      | nil => simpa using not_mem_digits noDigit first
      | cons second rest =>
          have unlisted := not_mem_digits noDigit first
          rw [List.map_cons, List.intercalate_cons_of_ne_nil (by simp)]
          simp only [List.mem_append, not_or]
          exact ⟨⟨unlisted, by simpa using noSlash⟩, ih⟩

/-- The digits of the numbers stand between the slashes, unless there is no number. -/
theorem splitOn_arityListing {arities : AritySet} (documented : arities.toList ≠ []) :
    (arityListing arities).toList.splitOn '/' =
      arities.toList.map fun arity => (toString arity).toList := by
  rw [toList_arityListing]
  refine List.splitOn_intercalate '/' ?_ (by simpa using documented)
  intro digits member
  obtain ⟨arity, -, rfl⟩ := List.mem_map.mp member
  exact not_mem_digits (by decide) arity

/-- The numbers of arguments are read back from their listing. -/
theorem mem_splitOn_arityListing {arities : AritySet} {arity : Nat} :
    (toString arity).toList ∈ (arityListing arities).toList.splitOn '/' ↔
      arity ∈ arities.toList := by
  by_cases none : arities.toList = []
  · simp [toList_arityListing, none, Nat.toDigits_ne_nil]
  · rw [splitOn_arityListing none]
    constructor
    · intro member
      obtain ⟨other, inSet, same⟩ := List.mem_map.mp member
      exact digits_inj same ▸ inSet
    · exact List.mem_map_of_mem

/-- A method and what is listed of it are read back from the line. -/
theorem methodLine_inj {name other listed otherListed : String}
    (named : IsIdentifier name.toList) (otherNamed : IsIdentifier other.toList)
    (same : (methodLine name listed).toList = (methodLine other otherListed).toList) :
    name = other ∧ listed = otherListed := by
  have unnamed : ∀ rest : List Char, ∀ c ∈ ('(' :: rest).head?, isNameChar c = false := by
    rintro rest c ⟨⟩
    decide
  have textEq : name.toList ++ '(' :: (listed.toList ++ [')']) =
      other.toList ++ '(' :: (otherListed.toList ++ [')']) := by
    simpa [methodLine] using same
  have nameEq := congrArg (List.takeWhile isNameChar) textEq
  have listedEq := congrArg (List.dropWhile isNameChar) textEq
  rw [takeWhile_append_of_stops (fun _ => named.isNameChar_of_mem) (unnamed _),
    takeWhile_append_of_stops (fun _ => otherNamed.isNameChar_of_mem) (unnamed _)] at nameEq
  rw [dropWhile_append_of_stops (fun _ => named.isNameChar_of_mem) (unnamed _),
    dropWhile_append_of_stops (fun _ => otherNamed.isNameChar_of_mem) (unnamed _)] at listedEq
  simp only [List.cons.injEq, true_and, List.append_cancel_right_eq] at listedEq
  exact ⟨String.toList_injective nameEq, String.toList_injective listedEq⟩

section Listing

variable {trackedClass : TrackedClass} {table : MethodTable}
variable (named : ∀ name ∈ table.names, IsIdentifier name.toList)

include named in
/-- The class and its methods have lines of their own. -/
theorem lines_listing :
    lines (Outcome.linesText (listing trackedClass.name table)) =
      (trackedClass.name ++ ":").toList ::
        table.entries.map (fun entry => (methodLine entry.1 (arityListing entry.2)).toList) ++
        [[]] := by
  have unbroken : ∀ line ∈ listing trackedClass.name table, '\n' ∉ line.toList := by
    rw [listing, List.forall_mem_cons]
    constructor
    · cases trackedClass <;> decide
    · intro line member
      obtain ⟨entry, inTable, rfl⟩ := List.mem_map.mp member
      have unbrokenName : '\n' ∉ entry.1.toList := fun inName => by
        have nameChar := (named _ (List.mem_map_of_mem inTable)).isNameChar_of_mem inName
        exact absurd nameChar (by decide)
      have noDigit : '\n'.isDigit = false := by decide
      have unbrokenListing := not_mem_arityListing noDigit (by decide) entry.2
      simp [methodText, unbrokenName, unbrokenListing]
  rw [lines_linesText unbroken, listing, List.map_cons, List.map_map]
  simp [methodLine, methodText, Function.comp_def]

include named in
/-- The lines that are shown list just the calls that the table allows. -/
theorem lists_listing_iff {name : String} (nameIsIdentifier : IsIdentifier name.toList)
    {arity : Nat} :
    Lists (Outcome.linesText (listing trackedClass.name table)) name arity ↔
      table.allows name arity := by
  rw [MethodTable.allows_iff, Lists, lines_listing named]
  constructor
  · rintro ⟨listed, lineMem, arityMem⟩
    simp only [List.mem_append, List.mem_cons, List.mem_map, List.not_mem_nil, or_false] at lineMem
    rcases lineMem with (first | ⟨⟨other, arities⟩, inTable, same⟩) | last
    · -- The line of the class begins with its name, and not with a blank.
      have blankFirst := congrArg List.head? first
      cases trackedClass <;> simp [methodLine, TrackedClass.name] at blankFirst
    · obtain ⟨rfl, rfl⟩ := methodLine_inj (named other (List.mem_map_of_mem inTable))
        nameIsIdentifier same
      exact ⟨arities, inTable, mem_splitOn_arityListing.mp arityMem⟩
    · simp [methodLine] at last
  · rintro ⟨arities, inTable, arityMem⟩
    refine ⟨arityListing arities, ?_, mem_splitOn_arityListing.mpr arityMem⟩
    have lineMem := List.mem_map_of_mem
      (f := fun entry => (methodLine entry.1 (arityListing entry.2)).toList) inTable
    simp [lineMem]

end Listing

end Show

/-- The method of a call has a name as documentation has it. -/
theorem isIdentifier_methodName {text : String} {call : CallSite} (member : call ∈ scanCalls text) :
    IsIdentifier call.methodName.toList := by
  obtain ⟨stops, -, -, read⟩ := exists_stops_scanCalls text
  obtain ⟨index, indexLt, rfl⟩ := List.mem_iff_getElem.mp member
  obtain ⟨anchor, behind, reads⟩ := read.get indexLt (read.length_eq ▸ indexLt)
  have named := reads.occurs.1.methodShape
  rw [← String.toList_ofList (l := anchor.methodName), ← reads.methodName_eq] at named
  exact named

section Findings

variable {limit : Nat} {threshold : Float} {store : CacheStore} {source : String}
variable {call : CallSite} {finding : Diagnostic}

/-- What the standing rules find are the faults of the calls. -/
theorem Engine.mem_checkSource_iff :
    finding ∈ ((ofSettings ⟨[], [], limit, threshold⟩).checkSource store source .unloaded).1 ↔
      ∃ call ∈ scanCalls source, ∃ fault, CallFault.find? store .unloaded call = some fault ∧
        fault.ReportedBy limit threshold call
          (Catalog.unloaded.get store call.className).1 finding := by
  rw [checkSource, checkCalls_fst, List.mem_flatMap]
  refine exists_congr fun call => and_congr_right fun _ => ?_
  cases tracked : TrackedClass.ofName? call.className with
  | none => simp [CallFault.find?, tracked]
  | some trackedClass =>
      have tableEq : (Catalog.unloaded.get store call.className).1 =
          Catalog.unloaded.tableOf? store trackedClass := by
        rw [Catalog.get, tracked, Catalog.lookUp_fst]
      have faultEq : CallFault.find? store .unloaded call =
          CallFault.of? call (Catalog.unloaded.tableOf? store trackedClass) := by
        rw [CallFault.find?, tracked, tableEq]
        rfl
      dsimp only
      rw [judge_standing, tableEq, faultEq, Option.mem_toList, Option.bind_eq_some_iff]
      refine exists_congr fun fault => and_congr_right fun _ => ?_
      exact ⟨CallFault.reportedBy_of_judged, CallFault.ReportedBy.judged⟩

/-- A call has a finding at its place when it has a fault, and the finding has the code of the
fault. -/
theorem Engine.exists_finding_iff (member : call ∈ scanCalls source) {code : DiagnosticCode} :
    (∃ finding ∈ ((ofSettings ⟨[], [], limit, threshold⟩).checkSource store source .unloaded).1,
        finding.location = call.location ∧ finding.code = code) ↔
      ∃ fault, CallFault.find? store .unloaded call = some fault ∧ fault.code = code := by
  constructor
  · rintro ⟨finding, found, location, rfl⟩
    obtain ⟨other, otherMem, fault, faulty, reported⟩ := mem_checkSource_iff.mp found
    obtain rfl := eq_of_location_eq otherMem member (reported.location_eq.symm.trans location)
    exact ⟨fault, faulty, reported.code_eq.symm⟩
  · rintro ⟨fault, faulty, rfl⟩
    have found := faulty
    rw [CallFault.find?] at found
    split_ifs at found
    obtain ⟨finding, reported⟩ := CallFault.exists_reportedBy limit threshold found
    exact ⟨finding, mem_checkSource_iff.mpr ⟨call, member, fault, faulty, reported⟩,
      reported.location_eq, reported.code_eq⟩

/-- A call has no finding at its place when it has no fault. -/
theorem Engine.no_finding_iff (member : call ∈ scanCalls source) :
    (∀ finding ∈ ((ofSettings ⟨[], [], limit, threshold⟩).checkSource store source .unloaded).1,
        finding.location ≠ call.location) ↔
      CallFault.find? store .unloaded call = none := by
  rw [Option.eq_none_iff_forall_ne_some]
  constructor
  · intro silent fault faulty
    obtain ⟨finding, found, location, -⟩ := (exists_finding_iff member).mpr ⟨fault, faulty, rfl⟩
    exact silent finding found location
  · intro faultless finding found location
    obtain ⟨fault, faulty, -⟩ := (exists_finding_iff member).mp ⟨finding, found, location, rfl⟩
    exact faultless fault faulty

theorem CallFault.find?_of_className_eq {trackedClass : TrackedClass}
    (named : call.className = trackedClass.name) :
    find? store .unloaded call = of? call (Catalog.unloaded.get store trackedClass.name).1 := by
  rw [find?, named, TrackedClass.ofName?_name]
  rfl

/-- A class has no table when every call of it is reported for the missing documentation. -/
theorem Engine.all_calls_unavailable_iff {trackedClass : TrackedClass} :
    (∀ source, ∀ call ∈ scanCalls source, call.className = trackedClass.name →
        ∃ finding ∈
          ((ofSettings ⟨[], [], limit, threshold⟩).checkSource store source .unloaded).1,
          finding.location = call.location ∧ finding.code = ⟨.warning, 1⟩) ↔
      (Catalog.unloaded.get store trackedClass.name).1 = none := by
  constructor
  · intro unavailable
    -- A script with a single call of the class is enough.
    have blank : ∀ c ∈ "".toList, isBlank c := by simp
    obtain ⟨later, scanned⟩ := newMethod.scanCalls_written trackedClass blank ""
    have member := scanned ▸ List.mem_cons_self
    obtain ⟨fault, faulty, codeEq⟩ :=
      (exists_finding_iff member).mp (unavailable _ _ member rfl)
    rw [CallFault.find?_of_className_eq rfl] at faulty
    cases known : (Catalog.unloaded.get store trackedClass.name).1 with
    | none => rfl
    | some table =>
        rw [known, CallFault.of?] at faulty
        cases fault <;> split at faulty <;> simp_all [CallFault.code]
  · intro missing source call member named
    refine (exists_finding_iff member).mpr ⟨.noTable, ?_, rfl⟩
    rw [CallFault.find?_of_className_eq named, missing]
    rfl

/-- A call is passed over when the table of its class allows it. -/
theorem Engine.passed_over_iff {trackedClass : TrackedClass} (member : call ∈ scanCalls source)
    (named : call.className = trackedClass.name) {table : MethodTable}
    (known : (Catalog.unloaded.get store trackedClass.name).1 = some table) :
    (∀ finding ∈ ((ofSettings ⟨[], [], limit, threshold⟩).checkSource store source .unloaded).1,
        finding.location ≠ call.location) ↔
      table.allows call.methodName call.arity := by
  rw [no_finding_iff member, CallFault.find?_of_className_eq named, known,
    CallFault.of?_eq_none_iff]
  simp

end Findings

/-- Every result of a completed traversal is the result for an item. -/
theorem exists_of_mapM_eq_ok {α β ε : Type} {f : α → Except ε β} {items : List α}
    {results : List β} (completed : items.mapM f = .ok results) {result : β}
    (member : result ∈ results) : ∃ item ∈ items, f item = .ok result := by
  induction items generalizing results with
  | nil =>
      cases completed
      cases member
  | cons item rest ih =>
      rw [List.mapM_cons] at completed
      cases first : f item with
      | error failure =>
          rw [first] at completed
          cases completed
      | ok value =>
          cases later : rest.mapM f with
          | error failure =>
              rw [first, later] at completed
              cases completed
          | ok others =>
              rw [first, later] at completed
              cases completed
              rcases List.mem_cons.mp member with rfl | inRest
              · exact ⟨item, List.mem_cons_self, first⟩
              · obtain ⟨other, otherMem, same⟩ := ih later inRest
                exact ⟨other, List.mem_cons_of_mem item otherMem, same⟩

/-- A check reports every script as it is reported alone. -/
theorem Check.exists_source_of_mem {surroundings : Surroundings} {options : Options}
    {project : Project} {store : CacheStore} {reports : List FileReport}
    (completed : (checkProject surroundings options project store).reports = .ok reports)
    {report : FileReport} (member : report ∈ reports) :
    ∃ source, surroundings.files.readText surroundings.here report.path = .ok source ∧
      report.diagnostics = ((Engine.ofSettings
        (project.settings.lint.overriddenBy options.allow options.deny)).checkSource store source
          .unloaded).1 := by
  rw [reports_checkProject surroundings options project store (scripts_of_reports completed)]
    at completed
  obtain ⟨path, -, alone⟩ := exists_of_mapM_eq_ok completed member
  rw [reportAlone] at alone
  split at alone
  · cases alone
  · rename_i source read
    cases alone
    exact ⟨source, read, rfl⟩

theorem Catalog.get_unloaded (store : CacheStore) (trackedClass : TrackedClass) :
    (Catalog.unloaded.get store trackedClass.name).1 =
      (store.readUsable? trackedClass.name).map CacheEntry.methods := by
  rw [get, TrackedClass.ofName?_name, lookUp_fst]
  rfl

theorem CacheStore.tryRead_of_readUsable? {store : CacheStore} {className : String}
    {entry : CacheEntry} (usable : store.readUsable? className = some entry) :
    store.tryRead className = .ok entry := by
  rw [readUsable?, Option.filter_eq_some_iff, read?] at usable
  cases read : store.tryRead className with
  | error failure => simp [read, Except.toOption] at usable
  | ok found => simpa [read, Except.toOption] using usable.1

namespace Show

/-- A class is shown and its calls are checked by the same table, whatever its file holds.  If there
is none, the class cannot be shown, and every call is reported for the missing documentation; no
class that can be shown has all its calls reported so.  If the methods in the file have names that
scripts can have, each of them is shown on a line of its own, in the order of their bytes, with its
numbers of arguments ascending.  Then a call is passed over by a check if and only if the lines list
it. -/
theorem shown_as_checked {environment : Environment} {project : Project}
    {loadProject : Surroundings → Except SettingsError Project}
    (loads : loadProject environment.surroundings = .ok project)
    (noneAllowed : project.settings.lint.allow = []) (noneDenied : project.settings.lint.deny = [])
    (verbose : Bool) (trackedClass : TrackedClass) :
    let store := environment.store project
    let shown := run environment verbose loadProject trackedClass.name
    let table := (Catalog.unloaded.get store trackedClass.name).1
    let findings := fun source =>
      ((Engine.ofSettings project.settings.lint).checkSource store source .unloaded).1
    (∀ surroundings options reports, options.allow = [] → options.deny = [] →
        (Check.checkProject surroundings options project store).reports = .ok reports →
        ∀ report ∈ reports, ∃ source,
          surroundings.files.readText surroundings.here report.path = .ok source ∧
            report.diagnostics = findings source) ∧
      (shown.code = 1 ↔ table = none) ∧
      (shown.code = 1 ↔ ∀ source, ∀ call ∈ scanCalls source,
        call.className = trackedClass.name →
          ∃ finding ∈ findings source,
            finding.location = call.location ∧ finding.code = ⟨.warning, 1⟩) ∧
      (shown.code ≠ 1 → shown.code = 0 ∧
        ∃ entry, store.tryRead trackedClass.name = .ok entry ∧ table = some entry.methods ∧
          ((∀ name ∈ entry.methods.names, IsIdentifier name.toList) →
            lines shown.output =
              (trackedClass.name ++ ":").toList ::
                entry.methods.entries.map (fun method =>
                  (methodLine method.1
                    ("/".intercalate (method.2.toList.map fun arity => toString arity))).toList) ++
                [[]] ∧
            (entry.methods.names.Pairwise fun first second => bytes first < bytes second) ∧
            (∀ method ∈ entry.methods.entries, method.2.toList.Pairwise (· < ·)) ∧
            ∀ source, ∀ call ∈ scanCalls source, call.className = trackedClass.name →
              ((∀ finding ∈ findings source, finding.location ≠ call.location) ↔
                Lists shown.output call.methodName call.arity))) := by
  intro store shown table findings
  have shownEq : shown = entryOutcome environment.surroundings.files verbose store trackedClass := by
    simp only [shown, run, TrackedClass.ofName?_name, loads]
    rfl
  have tableEq : table = (store.readUsable? trackedClass.name).map CacheEntry.methods :=
    Catalog.get_unloaded store trackedClass
  obtain ⟨limit, threshold, lintEq⟩ :
      ∃ limit threshold, project.settings.lint = ⟨[], [], limit, threshold⟩ := by
    refine ⟨project.settings.lint.maxSuggestions, project.settings.lint.similarityThreshold, ?_⟩
    rw [LintSettings.mk.injEq]
    exact ⟨noneAllowed, noneDenied, rfl, rfl⟩
  have codeIff : shown.code = 1 ↔ table = none := by
    rw [shownEq, tableEq, entryOutcome]
    cases store.readUsable? trackedClass.name <;> simp
  refine ⟨?_, codeIff, ?_, ?_⟩
  · intro surroundings options reports noneAllowedHere noneDeniedHere completed report member
    obtain ⟨source, read, diagnosticsEq⟩ := Check.exists_source_of_mem completed member
    rw [noneAllowedHere, noneDeniedHere] at diagnosticsEq
    exact ⟨source, read, diagnosticsEq⟩
  · simp only [findings, lintEq]
    rw [codeIff, Engine.all_calls_unavailable_iff]
  · intro succeeds
    cases usable : store.readUsable? trackedClass.name with
    | none => exact absurd (codeIff.mpr (by rw [tableEq, usable]; rfl)) succeeds
    | some entry =>
        have known : table = some entry.methods := by
          rw [tableEq, usable]
          rfl
        have outputEq : shown.output =
            Outcome.linesText (listing trackedClass.name entry.methods) := by
          rw [shownEq, entryOutcome, usable]
        refine ⟨by rw [shownEq, entryOutcome, usable], entry,
          CacheStore.tryRead_of_readUsable? usable, known, fun named => ⟨?_, ?_, ?_, ?_⟩⟩
        · rw [outputEq]
          exact lines_listing named
        · exact entry.methods.ascending.imp bytes_lt_bytes
        · exact fun method _ => method.2.ascending
        · intro source call member ofClass
          rw [outputEq, lists_listing_iff named (isIdentifier_methodName member)]
          simp only [findings, lintEq]
          exact Engine.passed_over_iff member ofClass known

/-- A file of a class that repeats a number of arguments and lacks what newer files have. -/
def olderFile : String :=
  "\x7b\"methods\":\x7b\"New\":[4,2,2],\"GetOwner\":[1]\x7d\x7d"

/-- A directory with a cache that holds the file. -/
def olderCache : Environment :=
  ⟨⟨⟨[(["c"], .directory), (["c", "GSGoal.json"], .file olderFile.toUTF8)]⟩, [], "", none⟩,
    fun base => (MemorySite.ofBase base).toSite, .epoch⟩

/-- A project with that cache. -/
def olderProject : Project :=
  ⟨".", .standard, ⟨"c", .home⟩⟩

/-- What the file holds. -/
def olderEntry : CacheEntry :=
  ⟨"GSGoal", .ofPairs [("New", 2), ("New", 4), ("GetOwner", 1)], none, none⟩

theorem store_olderCache :
    olderCache.store olderProject =
      ⟨"c", .present [("GSGoal.json", .file olderFile.toUTF8)]⟩ := by
  have cut : Path.segments "c" = ["c"] ∧ Path.isAbsolute "c" = false ∧
      Path.segments "GSGoal.json" = ["GSGoal.json"] ∧ Path.isAbsolute "GSGoal.json" = false := by
    decide +kernel
  simp [Environment.store, olderProject, olderCache, FileTree.cacheDirectory, FileTree.find?,
    FileTree.arrive, cut, FileTree.follow, FileTree.node?, Path.isFiller, Except.toOption,
    List.lookup_cons, FileTree.children, FileTree.below, FileTree.cacheNode?]

theorem read_olderCache :
    (Catalog.unloaded.get (olderCache.store olderProject) TrackedClass.goal.name).1 =
      some olderEntry.methods := by
  have decoded : CacheEntry.ofFileText? "GSGoal" olderFile = some olderEntry := by decide +kernel
  have held : (olderCache.store olderProject).node? "GSGoal" =
      some (.file olderFile.toUTF8) := by
    rw [store_olderCache]
    rfl
  have usable : olderEntry.isUsable := by decide
  rw [Catalog.get_unloaded, CacheStore.readUsable?, CacheStore.read?_eq, TrackedClass.name, held,
    Option.bind_some, CacheStore.entryOfNode?, CacheStore.fromUTF8?_toUTF8, Option.bind_some,
    decoded, Option.filter_some, if_pos usable]
  rfl

theorem isIdentifier_olderEntry : ∀ name ∈ olderEntry.methods.names, IsIdentifier name.toList := by
  have names : olderEntry.methods.names = ["GetOwner", "New"] := by decide
  rw [names]
  intro name member
  simp only [List.mem_cons, List.not_mem_nil, or_false] at member
  rcases member with rfl | rfl <;>
    exact ⟨_, _, rfl, by decide, List.all_eq_true.mp (by decide)⟩

theorem shown_as_checked_olderCache :
    let shown := run olderCache false (fun _ => .ok olderProject) "GSGoal"
    shown.code = 0 ∧
      lines shown.output =
        ["GSGoal:".toList, "  - GetOwner(1)".toList, "  - New(2/4)".toList, []] ∧
      ∀ source, ∀ call ∈ scanCalls source, call.className = "GSGoal" →
        call.methodName = "New" → call.arity = 2 →
          ∀ finding ∈ ((Engine.ofSettings .standard).checkSource (olderCache.store olderProject)
              source .unloaded).1,
            finding.location ≠ call.location := by
  intro shown
  let loadProject : Surroundings → Except SettingsError Project := fun _ => .ok olderProject
  have loads : loadProject olderCache.surroundings = .ok olderProject := rfl
  obtain ⟨-, codeIff, -, described⟩ := shown_as_checked loads rfl rfl false .goal
  have succeeds : shown.code ≠ 1 := fun fails => by
    have missing := codeIff.mp fails
    rw [read_olderCache] at missing
    cases missing
  obtain ⟨code, entry, -, known, readsBack⟩ := described succeeds
  rw [read_olderCache, Option.some.injEq] at known
  obtain ⟨linesEq, -, -, passes⟩ := readsBack (known ▸ isIdentifier_olderEntry)
  rw [← known] at linesEq
  have shownLines : lines shown.output =
      ["GSGoal:".toList, "  - GetOwner(1)".toList, "  - New(2/4)".toList, []] :=
    linesEq.trans (by decide)
  refine ⟨code, shownLines, fun source call member ofClass named counted => ?_⟩
  have listed : Lists shown.output "New" 2 := ⟨"2/4", by rw [shownLines]; decide, by decide⟩
  exact (passes source call member ofClass).mpr (by rwa [named, counted])

end Show

end ScriptLint
