import ScriptLint.Proofs.Cache.EntryText
import ScriptLint.Proofs.Docs.ParsedTables
import ScriptLint.Proofs.Docs.SavedEntries

/-!
# Histories of maintenance

A cache is maintained over and over, each time with other options, at another time, and from a
site that may have changed.  Any file may be refused, also one that holds an entry.  However this
goes, the file of a class holds the entry that was written for it last, or none if there has been
none.
-/

namespace ScriptLint

namespace Maintainer

/-- What a maintainer can be asked to do. -/
inductive Task where
  /-- To refresh a class. -/
  | refresh (className : String)
  /-- To refresh all tracked classes up to the first failure. -/
  | updateAll
  /-- To refresh all tracked classes, whatever the results. -/
  | updateEach

/-- A task for a maintainer, with the option that it is given. -/
structure Visit where
  /-- The maintainer, with its site and the time. -/
  maintainer : Maintainer
  /-- Whether pages are fetched even if the entries in the cache are fresh. -/
  force : Bool
  task : Task
  /-- Whether the directory can be made before all classes are refreshed. -/
  makes : Bool
  /-- What the system says when the file of a class is to be written. -/
  replies : TrackedClass → WriteReply

namespace Visit

/-- The refreshes of all classes in one visit. -/
def runClasses (visit : Visit) (stops : Bool) (store : CacheStore) : Maintained Unit :=
  visit.maintainer.refreshAllUnder visit.force stops visit.replies TrackedClass.all
    (if visit.makes then prepare store else store)

/-- A visit to a store: the store afterwards and the requests that were made. -/
def run (visit : Visit) (store : CacheStore) : Maintained Unit :=
  match visit.task with
  | .refresh className =>
    match TrackedClass.ofName? className with
    | none => ⟨(), store, []⟩
    | some trackedClass =>
      let done := visit.maintainer.refreshUnder visit.force (visit.replies trackedClass) store
        trackedClass
      ⟨(), done.store, done.requests⟩
  | .updateAll => visit.runClasses true store
  | .updateEach => visit.runClasses false store

/-- Visits to a store one after the other. -/
def runAll : List Visit → CacheStore → CacheStore
  | [], store => store
  | visit :: later, store => runAll later (visit.run store).store

/-- The entry that a visit writes for a class, because it fetches the page of the class, the page
describes a method, and the file can be written and is not refused. -/
def written? (visit : Visit) (store : CacheStore) (trackedClass : TrackedClass) :
    Option CacheEntry :=
  visit.maintainer.entrySaved? visit.replies store (visit.run store).requests trackedClass

/-- The entry that visits have written last for a class. -/
def lastWritten? : List Visit → CacheStore → TrackedClass → Option CacheEntry
  | [], _, _ => none
  | visit :: later, store, trackedClass =>
    (lastWritten? later (visit.run store).store trackedClass).or
      (visit.written? store trackedClass)

variable {visit : Visit} {visits : List Visit} {store start : CacheStore}
variable {trackedClass : TrackedClass} {entry : CacheEntry}

/-- A visit to which nothing is refused does what its maintainer does on its own. -/
theorem run_of_granted (granted : ∀ trackedClass, visit.replies trackedClass = .granted)
    (makes : visit.makes = true) (store : CacheStore) :
    ((visit.run store).store, (visit.run store).requests) =
      match visit.task with
      | .refresh className =>
        let done := visit.maintainer.refresh visit.force store className
        (done.store, done.requests)
      | .updateAll =>
        let done := visit.maintainer.updateAll visit.force store
        (done.store, done.requests)
      | .updateEach =>
        let done := visit.maintainer.updateEach visit.force store
        (done.store, done.requests) := by
  rw [run]
  cases visit.task with
  | refresh className =>
      dsimp only
      rw [refresh]
      cases TrackedClass.ofName? className with
      | none => rfl
      | some trackedClass =>
          dsimp only
          rw [granted]
          rfl
  | updateAll =>
      dsimp only
      rw [runClasses, makes, refreshAllUnder_granted_stops granted]
      rfl
  | updateEach =>
      dsimp only
      rw [runClasses, makes, refreshAllUnder_granted granted]
      rfl

theorem saves_runClasses (visit : Visit) (stops : Bool) (store : CacheStore) :
    visit.maintainer.Saves visit.replies store (visit.runClasses stops store).store
      (visit.runClasses stops store).requests := by
  have made : visit.maintainer.Saves visit.replies store
      (if visit.makes then prepare store else store) [] := by
    apply Saves.of_made_unasked
    split_ifs
    · exact Or.inr rfl
    · exact Or.inl rfl
  exact made.trans (saves_refreshAllUnder visit.maintainer visit.force stops visit.replies
    TrackedClass.all _)

/-- What a visit does to the store is told by its requests. -/
theorem saves_run (visit : Visit) (store : CacheStore) :
    visit.maintainer.Saves visit.replies store (visit.run store).store
      (visit.run store).requests := by
  rw [run]
  cases visit.task with
  | refresh className =>
      dsimp only
      cases TrackedClass.ofName? className with
      | none => exact .of_made_unasked (Or.inl rfl)
      | some trackedClass =>
          exact saves_refreshUnder visit.maintainer visit.force visit.replies store trackedClass
  | updateAll => exact saves_runClasses visit true store
  | updateEach => exact saves_runClasses visit false store

/-- Every entry that is written comes from a page that describes a method, and is complete. -/
theorem complete_of_entryFetched? {maintainer : Maintainer}
    (fetched : maintainer.entryFetched? trackedClass = some entry) :
    entry.className = trackedClass.name ∧ entry.methods.isEmpty = false ∧
      entry.methods.IsFilled ∧ entry.headers.isSome ∧ entry.cachedAt.isSome := by
  rw [entryFetched?] at fetched
  split at fetched
  · cases fetched
  · rename_i page _
    have filled := isFilled_methodsOfMarkup page.markup
    generalize methodsOfMarkup page.markup = methods at fetched filled
    dsimp only at fetched
    split_ifs at fetched with empty
    cases fetched
    exact ⟨rfl, Bool.eq_false_of_not_eq_true empty, filled, rfl, rfl⟩

/-- After any visits the file of a class holds the entry that was written last, or is as it was at
the start. -/
theorem node?_runAll (visits : List Visit) (start : CacheStore) (trackedClass : TrackedClass) :
    (runAll visits start).node? trackedClass.name =
      match lastWritten? visits start trackedClass with
      | none => start.node? trackedClass.name
      | some entry => some (.file entry.fileText.toUTF8) := by
  induction visits generalizing start with
  | nil => rfl
  | cons visit later ih =>
      rw [runAll, ih, lastWritten?]
      cases lastWritten? later (visit.run start).store trackedClass with
      | some entry => rfl
      | none => exact (visit.saves_run start).node_eq trackedClass

theorem mem_names_runAll {name : String}
    (known : name ∈ (runAll visits start).directory.names) :
    name ∈ start.directory.names ∨
      ∃ trackedClass : TrackedClass, name = CacheDirectory.fileName trackedClass.name := by
  induction visits generalizing start with
  | nil => exact Or.inl known
  | cons visit later ih =>
      rcases ih known with inBetween | tracked
      · exact (visit.saves_run start).named name inBetween
      · exact Or.inr tracked

theorem exists_entryFetched?_of_lastWritten?
    (last : lastWritten? visits start trackedClass = some entry) :
    ∃ visit ∈ visits, visit.maintainer.entryFetched? trackedClass = some entry := by
  induction visits generalizing start with
  | nil => cases last
  | cons visit later ih =>
      rw [lastWritten?] at last
      cases afterwards : lastWritten? later (visit.run start).store trackedClass with
      | some other =>
          rw [afterwards] at last
          cases last
          obtain ⟨writing, inLater, fetched⟩ := ih afterwards
          exact ⟨writing, List.mem_cons_of_mem visit inLater, fetched⟩
      | none =>
          rw [afterwards, Option.none_or, written?, entrySaved?] at last
          split_ifs at last
          exact ⟨visit, List.mem_cons_self, last⟩

/-- Whatever visits a store has had, and whatever it was at the start, the file of every class
holds the entry that was written for the class last, and is as at the start if there has been
none.  The entry comes from the latest fetch of the page of the class that gave a method and could
be written without being refused; it is complete, and is read back from the file as long as its
counts fit into eight bytes.  No names but those of the files of tracked classes come into the
directory.  So in a directory that was absent or empty, a class without such a fetch has no file,
and there are no other files. -/
theorem files_hold_entries_written_last (visits : List Visit) (start : CacheStore) :
    (∀ trackedClass : TrackedClass,
      match lastWritten? visits start trackedClass with
      | none => (runAll visits start).node? trackedClass.name = start.node? trackedClass.name
      | some entry =>
        (runAll visits start).node? trackedClass.name = some (.file entry.fileText.toUTF8) ∧
          (entry.methods.Fits → (runAll visits start).tryRead trackedClass.name = .ok entry) ∧
          entry.methods.isEmpty = false ∧
          (∀ method ∈ entry.methods.entries, method.2.toList ≠ []) ∧
          entry.headers.isSome ∧ entry.cachedAt.isSome) ∧
      (∀ name ∈ (runAll visits start).directory.names, name ∈ start.directory.names ∨
        ∃ trackedClass : TrackedClass, name = CacheDirectory.fileName trackedClass.name) ∧
      (start.directory = .absent ∨ start.directory = .present [] →
        (∀ trackedClass : TrackedClass, lastWritten? visits start trackedClass = none →
          (runAll visits start).node? trackedClass.name = none) ∧
        ∀ name ∈ (runAll visits start).directory.names,
          ∃ trackedClass : TrackedClass, name = CacheDirectory.fileName trackedClass.name) := by
  refine ⟨fun trackedClass => ?_, fun name known => mem_names_runAll known, fun fresh => ⟨?_, ?_⟩⟩
  · have holds := node?_runAll visits start trackedClass
    cases last : lastWritten? visits start trackedClass with
    | none =>
        rw [last] at holds
        exact holds
    | some entry =>
        rw [last] at holds
        obtain ⟨visit, -, fetched⟩ := exists_entryFetched?_of_lastWritten? last
        obtain ⟨named, filled, counted, complete⟩ := complete_of_entryFetched? fetched
        exact ⟨holds, CacheStore.tryRead_of_node? holds named, filled, counted, complete⟩
  · intro trackedClass never
    have holds := node?_runAll visits start trackedClass
    rw [never] at holds
    refine holds.trans ?_
    rw [CacheStore.node?]
    rcases fresh with fresh | fresh <;> rw [fresh] <;> rfl
  · intro name known
    refine (mem_names_runAll known).resolve_left ?_
    rcases fresh with fresh | fresh <;> rw [fresh] <;> exact List.not_mem_nil

/-- A visit that writes the entry of one class. -/
def oneClassVisit : Visit :=
  ⟨oneMethodMaintainer, false, .refresh "GSGoal", true, fun _ => .granted⟩

/-- A later visit that would write the entries of all classes again, if this were not refused. -/
def refusedVisit : Visit :=
  ⟨{ oneMethodMaintainer with now := .ofMillis 1000 }, true, .updateEach, true,
    fun _ => .refused true⟩

theorem written?_refusedVisit (store : CacheStore) (trackedClass : TrackedClass) :
    refusedVisit.written? store trackedClass = none := by
  rw [written?, entrySaved?, if_neg]
  rintro ⟨-, -, granted⟩
  cases granted

theorem written?_oneClassVisit (path : String) (trackedClass : TrackedClass) :
    oneClassVisit.written? ⟨path, .absent⟩ trackedClass =
      if trackedClass = .goal then
        some ⟨"GSGoal", .ofPairs [("IsOpen", 1)], some pageOfOneMethod.headers, some .epoch⟩
      else none := by
  have isGoal : TrackedClass.ofName? "GSGoal" = some .goal := by decide
  have requestsEq : (oneClassVisit.run ⟨path, .absent⟩).requests =
      (oneMethodMaintainer.refreshTracked false ⟨path, .absent⟩ .goal).requests := by
    simp only [run, oneClassVisit, isGoal, refreshUnder]
  have nothingKept : oneMethodMaintainer.kept? false ⟨path, .absent⟩ .goal = none := rfl
  have fetched : oneMethodMaintainer.entryFetched? .goal =
      some ⟨"GSGoal", .ofPairs [("IsOpen", 1)], some pageOfOneMethod.headers, some .epoch⟩ := by
    have found : oneMethodMaintainer.site.fetch TrackedClass.goal.page = .ok pageOfOneMethod := rfl
    rw [entryFetched?, found]
    dsimp only
    rw [methodsOfMarkup_pageOfOneMethod]
    rfl
  rw [written?, entrySaved?, requestsEq]
  simp only [fetch_mem_requests_refreshTracked]
  by_cases same : trackedClass = .goal
  · subst same
    rw [if_pos rfl, if_pos ⟨⟨rfl, nothingKept⟩, accepts_of_absent path .goal, rfl⟩]
    exact fetched
  · rw [if_neg same, if_neg fun asked => same asked.1.1]

theorem files_hold_entries_written_last_refusedVisit :
    let after := runAll [oneClassVisit, refusedVisit] ⟨"cache", .absent⟩
    after.tryRead "GSGoal" = .ok
        ⟨"GSGoal", .ofPairs [("IsOpen", 1)], some pageOfOneMethod.headers, some .epoch⟩ ∧
      after.node? "GSTown" = none := by
  have lastWritten (trackedClass : TrackedClass) :
      lastWritten? [oneClassVisit, refusedVisit] ⟨"cache", .absent⟩ trackedClass =
        oneClassVisit.written? ⟨"cache", .absent⟩ trackedClass := by
    rw [lastWritten?, lastWritten?, lastWritten?, written?_refusedVisit, Option.none_or,
      Option.none_or]
  obtain ⟨files, -, fresh⟩ :=
    files_hold_entries_written_last [oneClassVisit, refusedVisit] ⟨"cache", .absent⟩
  obtain ⟨unwritten, -⟩ := fresh (Or.inl rfl)
  simp only [lastWritten, written?_oneClassVisit] at files unwritten
  have goal := files .goal
  rw [if_pos rfl] at goal
  exact ⟨goal.2.1 fits_isOpen, unwritten .town (if_neg (by decide))⟩

end Visit

end Maintainer

end ScriptLint
