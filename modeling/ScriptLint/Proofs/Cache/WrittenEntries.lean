import ScriptLint.Proofs.Cache.EntryText
import ScriptLint.Registry

/-!
# Reading what has been written

A written entry is read back as it was, whatever its names, headers and time, because the text of
its file stands for it.  Reading another class depends on the file of that class alone, so it gives
what it gave before, failures included.
-/

namespace ScriptLint

namespace CacheDirectory

theorem readText_eq (cache : CacheDirectory) (name : String) :
    cache.readText name =
      if cache.isBlocked then .error .notADirectory
      else
        match cache.node? name with
        | none => .error .notFound
        | some .directory => .error .isADirectory
        | some (.file content) =>
          match String.fromUTF8? content with
          | some text => .ok text
          | none => .error .invalidText := by
  -- An absent directory gives the same failure as one in which the name is missing.
  cases cache <;> rfl

end CacheDirectory

namespace CacheStore

variable {store written first second : CacheStore} {className other : String} {entry : CacheEntry}

theorem path_of_write (success : store.write className entry = .ok written) :
    written.path = store.path := by
  obtain ⟨created, nodes, made, present, rfl⟩ := write_eq_ok success
  rfl

theorem agreeOn_of_write (success : store.write className entry = .ok written)
    (different : other ≠ className) : written.AgreeOn store other where
  blocked_eq := by
    obtain ⟨before, afterwards⟩ := isBlocked_of_write success
    rw [before, afterwards]
  node_eq := by
    rw [node?_of_write success, if_neg different]

theorem AgreeOn.tryRead_eq (agree : first.AgreeOn second className)
    (pathEq : first.path = second.path) : first.tryRead className = second.tryRead className := by
  have textEq : first.directory.readText (CacheDirectory.fileName className) =
      second.directory.readText (CacheDirectory.fileName className) := by
    have nodeEq := agree.node_eq
    rw [node?, node?] at nodeEq
    rw [CacheDirectory.readText_eq, CacheDirectory.readText_eq, agree.blocked_eq, nodeEq]
  have fileEq : first.pathFor className = second.pathFor className := by
    rw [pathFor, pathFor, pathEq]
  rw [tryRead, tryRead, textEq, fileEq]

theorem read?_of_tryRead (found : store.tryRead className = .ok entry) :
    store.read? className = some entry := by
  rw [read?, found]
  rfl

theorem readMethods?_of_tryRead (found : store.tryRead className = .ok entry) :
    store.readMethods? className = if entry.methods.isEmpty then none else some entry.methods := by
  rw [readMethods?, readUsable?, read?_of_tryRead found]
  by_cases noMethods : entry.methods.isEmpty
  · simp [CacheEntry.isUsable, noMethods]
  · simp [CacheEntry.isUsable, noMethods]

/-- The file of a tracked class can be written unless a plain file stands in the way of the
directory, or a directory in the way of the file. -/
theorem accepts_name_iff {trackedClass : TrackedClass} :
    store.accepts trackedClass.name = true ↔
      store.directory.isBlocked = false ∧ store.node? trackedClass.name ≠ some .directory := by
  have noSlash : (CacheDirectory.fileName trackedClass.name).contains '/' = false := by
    rw [String.contains_char_eq]
    cases trackedClass <;> decide
  rw [accepts, CacheDirectory.accepts, noSlash, node?]
  cases store.directory.node? (CacheDirectory.fileName trackedClass.name) with
  | none => simp
  | some node => cases node <;> simp

/-- A file that holds the text of an entry is read as the entry, but for the class, which is the
one that the file is named after. -/
theorem tryRead_of_holds (holds : store.node? className = some (.file entry.fileText.toUTF8))
    (fits : entry.methods.Fits) : store.tryRead className = .ok { entry with className } := by
  have sameText : ({ entry with className } : CacheEntry).fileText = entry.fileText := rfl
  apply tryRead_of_node?
  · rw [sameText]
    exact holds
  · rfl
  · exact fits

theorem tryRead_of_write (success : store.write className entry = .ok written)
    (fits : entry.methods.Fits) : written.tryRead className = .ok { entry with className } := by
  apply tryRead_of_holds
  · rw [node?_of_write success, if_pos rfl]
  · exact fits

/-- When the entry of a tracked class has been written, the class is read as exactly the entry, its
methods are those of the entry unless it has none, and all reads of the other tracked classes give
what they gave before.  The names and headers may be any texts, and the time any instant that the
calendar keeps; the counts have to fit into eight bytes. -/
theorem reads_after_write {trackedClass : TrackedClass}
    (fits : entry.methods.Fits)
    (success : store.write trackedClass.name entry = .ok written) :
    written.tryRead trackedClass.name = .ok { entry with className := trackedClass.name } ∧
      written.readMethods? trackedClass.name =
        (if entry.methods.isEmpty then none else some entry.methods) ∧
      ∀ other : TrackedClass, other ≠ trackedClass →
        written.tryRead other.name = store.tryRead other.name ∧
          written.read? other.name = store.read? other.name ∧
          written.readMethods? other.name = store.readMethods? other.name := by
  have own := tryRead_of_write success fits
  have ownMethods := readMethods?_of_tryRead own
  refine ⟨own, ownMethods, ?_⟩
  intro other different
  have namesDiffer : other.name ≠ trackedClass.name := by
    intro same
    exact different (TrackedClass.name_injective same)
  have agree := agreeOn_of_write success namesDiffer
  have tryReadEq := agree.tryRead_eq (path_of_write success)
  refine ⟨tryReadEq, ?_, ?_⟩
  · rw [read?, read?, tryReadEq]
  · rw [readMethods?, readMethods?, agree.readUsable?_eq]

/-- An entry whose texts need escapes, with the greatest count that fits, a method without counts,
and a leap second of the first day that the calendar keeps. -/
def awkwardEntry : CacheEntry where
  className := "elsewhere"
  methods :=
    ⟨[("A\"b\\c\n", ⟨[0, 18446744073709551615], by decide⟩), ("é\t", .empty)],
      by decide⟩
  headers := some ⟨some "\"v1\"", none, some "\u0001\u001f", none, some "日"⟩
  cachedAt := some ⟨-96465292, 86399, 1999999999, by decide, by decide, by decide⟩

theorem reads_after_write_awkwardEntry :
    awkwardEntry.methods.Fits ∧
      ∃ written, write ⟨"cache", .absent⟩ TrackedClass.goal.name awkwardEntry = .ok written ∧
        written.tryRead "GSGoal" = .ok { awkwardEntry with className := "GSGoal" } ∧
        written.readMethods? "GSGoal" = some awkwardEntry.methods ∧
        written.readMethods? "GSSign" = none := by
  have fits : awkwardEntry.methods.Fits := by
    unfold awkwardEntry MethodTable.Fits AritySet.Fits
    simp [AritySet.empty]
  have writable : (write ⟨"cache", .absent⟩ TrackedClass.goal.name awkwardEntry).isOk := by
    rw [isOk_write, accepts_name_iff]
    exact ⟨rfl, by simp [node?, CacheDirectory.node?]⟩
  cases success : write ⟨"cache", .absent⟩ TrackedClass.goal.name awkwardEntry with
  | error failure =>
      rw [success] at writable
      cases writable
  | ok written =>
      obtain ⟨own, ownMethods, others⟩ := reads_after_write fits success
      exact ⟨fits, written, rfl, own, ownMethods, (others .sign (by decide)).2.2⟩

end CacheStore

end ScriptLint
