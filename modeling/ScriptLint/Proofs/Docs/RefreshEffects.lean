import ScriptLint.Proofs.Cache.CatalogLookUp
import ScriptLint.Proofs.Cache.WrittenEntries
import ScriptLint.Proofs.Docs.RefreshFrame

/-!
# What a refresh leaves behind

A refresh either installs a complete entry or keeps all files as they are, and its result tells
which.  This does not depend on why a file cannot be written: a write that is refused leaves the
files alone too, as long as it does not write a part.
-/

namespace ScriptLint

namespace CacheStore

variable {before after store written : CacheStore} {className : String} {entry : CacheEntry}

/-- Two stores with the same files: all that may have happened from one to the other is that the
directory has been made. -/
structure SameFiles (before after : CacheStore) : Prop where
  made : after = before ∨ before.create = .ok after
  node_eq : ∀ name, after.directory.node? name = before.directory.node? name
  names_eq : after.directory.names = before.directory.names

theorem directory_create_of_create (made : before.create = .ok after) :
    before.directory.create = .ok after.directory := by
  rw [create] at made
  split at made
  · rename_i directory directoryMade
    cases made
    exact directoryMade
  · cases made

theorem sameFiles_of_made (made : after = before ∨ before.create = .ok after) :
    before.SameFiles after := by
  rcases made with rfl | created
  · exact ⟨Or.inl rfl, fun _ => rfl, rfl⟩
  · have directoryMade := directory_create_of_create created
    refine ⟨Or.inr created, ?_, ?_⟩
    · intro name
      exact CacheDirectory.node?_of_create directoryMade
    · exact CacheDirectory.names_of_create directoryMade

/-- A write changes what one name in the directory leads to. -/
theorem directory_node?_of_write (success : store.write className entry = .ok written)
    {name : String} (different : name ≠ CacheDirectory.fileName className) :
    written.directory.node? name = store.directory.node? name := by
  obtain ⟨created, nodes, made, rfl, rfl⟩ := write_eq_ok success
  rw [CacheDirectory.node?, CacheDirectory.lookup_setNode, if_neg different,
    ← CacheDirectory.node?_of_create made]
  rfl

end CacheStore

theorem Catalog.get_unloaded_fst {store : CacheStore} {trackedClass : TrackedClass}
    {methods : MethodTable} (stored : store.readMethods? trackedClass.name = some methods) :
    (Catalog.unloaded.get store trackedClass.name).1 = some methods := by
  rw [Catalog.get, TrackedClass.ofName?_name]
  dsimp only
  rw [Catalog.lookUp_fst, Catalog.tableOf?, stored]
  rfl

namespace Maintainer

variable {maintainer : Maintainer} {force : Bool} {store after : CacheStore}
variable {trackedClass : TrackedClass} {className : String} {entry : CacheEntry}
variable {methods : MethodTable}

theorem prepare_made (store : CacheStore) :
    prepare store = store ∨ store.create = .ok (prepare store) := by
  rw [prepare]
  cases store.create with
  | error failure => exact Or.inl rfl
  | ok created => exact Or.inr rfl

/-- A fetch fails when the page cannot be had, and only then.  Otherwise it gives the methods of
the page, and these are in the cache afterwards if there are any and the file can be written. -/
theorem fetch_fst (maintainer : Maintainer) (store : CacheStore) (trackedClass : TrackedClass) :
    (maintainer.fetch store trackedClass).1 =
      (maintainer.site.fetch trackedClass.page).map fun page =>
        .fetched (methodsOfMarkup page.markup)
          (!(methodsOfMarkup page.markup).isEmpty && store.accepts trackedClass.name) := by
  rw [fetch]
  cases maintainer.site.fetch trackedClass.page with
  | error failure => rfl
  | ok page =>
      dsimp only
      by_cases noMethods : (methodsOfMarkup page.markup).isEmpty
      · rw [if_pos noMethods]
        simp [Except.map, noMethods]
      · rw [if_neg noMethods, persist_fst]
        simp [Except.map, noMethods]

/-- What a fetch of the page of a class can do, with the condition under which it does it. -/
inductive FetchEnds (maintainer : Maintainer) (store : CacheStore) (trackedClass : TrackedClass) :
    RefreshResult × CacheStore → Prop
  | failed {failure : DocsError}
      (notFetched : maintainer.site.fetch trackedClass.page = .error failure) :
      FetchEnds maintainer store trackedClass (.error failure, store)
  | undescribed {page : FetchedPage} {methods : MethodTable}
      (fetched : maintainer.site.fetch trackedClass.page = .ok page)
      (ofPage : methods = methodsOfMarkup page.markup)
      (noMethods : methods.isEmpty = true) :
      FetchEnds maintainer store trackedClass (.ok (.fetched methods false), store)
  | unwritten {page : FetchedPage} {methods : MethodTable}
      (fetched : maintainer.site.fetch trackedClass.page = .ok page)
      (ofPage : methods = methodsOfMarkup page.markup)
      (described : methods.isEmpty = false)
      (refused : store.accepts trackedClass.name = false) :
      FetchEnds maintainer store trackedClass (.ok (.fetched methods false), prepare store)
  | written {page : FetchedPage} {methods : MethodTable} {after : CacheStore}
      (fetched : maintainer.site.fetch trackedClass.page = .ok page)
      (ofPage : methods = methodsOfMarkup page.markup)
      (described : methods.isEmpty = false)
      (success : store.write trackedClass.name
        ⟨trackedClass.name, methods, some page.headers, some maintainer.now⟩ = .ok after) :
      FetchEnds maintainer store trackedClass (.ok (.fetched methods true), after)

theorem fetchEnds_fetch (maintainer : Maintainer) (store : CacheStore)
    (trackedClass : TrackedClass) :
    maintainer.FetchEnds store trackedClass (maintainer.fetch store trackedClass) := by
  rw [fetch]
  cases fetched : maintainer.site.fetch trackedClass.page with
  | error failure => exact .failed fetched
  | ok page =>
      dsimp only
      generalize ofPage : methodsOfMarkup page.markup = methods
      split_ifs with noMethods
      · exact .undescribed fetched ofPage.symm noMethods
      · have described := Bool.eq_false_of_not_eq_true noMethods
        rw [persist]
        cases success : store.write trackedClass.name
            ⟨trackedClass.name, methods, some page.headers, some maintainer.now⟩ with
        | error failure =>
            have refused : store.accepts trackedClass.name = false := by
              rw [← CacheStore.isOk_write, success]
              rfl
            exact .unwritten fetched ofPage.symm described refused
        | ok after => exact .written fetched ofPage.symm described success

theorem candidate?_eq_some_iff {headers : ValidationHeaders} :
    candidate? store className = some (methods, headers) ↔
      ∃ entry, store.read? className = some entry ∧ entry.methods.isEmpty = false ∧
        entry.headers = some headers ∧ entry.methods = methods := by
  simp [candidate?, CacheStore.readUsable?, CacheEntry.isUsable, Option.bind_eq_some_iff,
    Option.filter_eq_some_iff, and_assoc]

/-- The site is asked about an entry unless the refresh is forced, as long as the entry has methods
and headers. -/
theorem asked?_eq_some_iff {headers : ValidationHeaders} :
    asked? force store trackedClass = some (methods, headers) ↔
      force = false ∧ ∃ entry, store.read? trackedClass.name = some entry ∧
        entry.methods.isEmpty = false ∧ entry.headers = some headers ∧ entry.methods = methods := by
  rw [asked?]
  cases force with
  | true => simp
  | false => simp [candidate?_eq_some_iff]

theorem confirms_iff {page : String} {headers : ValidationHeaders} :
    maintainer.confirms page headers = true ↔
      ∃ live, maintainer.site.head page = .ok live ∧
        Freshness.assess (some headers) live maintainer.now = .fresh := by
  rw [confirms]
  cases maintainer.site.head page with
  | error failure => simp
  | ok live => simp [Freshness.needsRefresh]

theorem kept?_eq_some_iff {headers : ValidationHeaders} :
    maintainer.kept? force store trackedClass = some (methods, headers) ↔
      asked? force store trackedClass = some (methods, headers) ∧
        maintainer.confirms trackedClass.page headers = true := by
  rw [kept?, Option.filter_eq_some_iff]

/-- A refresh that reports a kept table has touched nothing, and the table is the one in the
store. -/
theorem refreshTracked_reused
    (reused : (maintainer.refreshTracked force store trackedClass).result =
      .ok (.reused methods)) :
    (maintainer.refreshTracked force store trackedClass).store = store ∧
      store.readMethods? trackedClass.name = some methods := by
  rw [refreshTracked_eq] at reused ⊢
  cases kept : maintainer.kept? force store trackedClass with
  | none =>
      rw [kept] at reused
      dsimp only at reused
      have ends := fetchEnds_fetch maintainer store trackedClass
      generalize maintainer.fetch store trackedClass = done at ends reused
      cases ends <;> cases reused
  | some candidate =>
      obtain ⟨table, headers⟩ := candidate
      rw [kept] at reused
      cases reused
      obtain ⟨-, entry, found, described, -, rfl⟩ :=
        asked?_eq_some_iff.mp (kept?_eq_some_iff.mp kept).1
      refine ⟨rfl, ?_⟩
      simp [CacheStore.readMethods?, CacheStore.readUsable?, found, CacheEntry.isUsable, described]

/-- A refresh that reports a written entry has written the methods of the page that it fetched,
with the headers of the page and the time. -/
theorem refreshTracked_persisted
    (persisted : (maintainer.refreshTracked force store trackedClass).result =
      .ok (.fetched methods true)) :
    ∃ page, maintainer.site.fetch trackedClass.page = .ok page ∧
      methods = methodsOfMarkup page.markup ∧ methods.isEmpty = false ∧
      store.write trackedClass.name
          ⟨trackedClass.name, methods, some page.headers, some maintainer.now⟩ =
        .ok (maintainer.refreshTracked force store trackedClass).store := by
  rw [refreshTracked_eq] at persisted ⊢
  cases kept : maintainer.kept? force store trackedClass with
  | some candidate =>
      rw [kept] at persisted
      cases persisted
  | none =>
      rw [kept] at persisted
      dsimp only at persisted ⊢
      have ends := fetchEnds_fetch maintainer store trackedClass
      generalize maintainer.fetch store trackedClass = done at ends persisted ⊢
      cases ends with
      | failed => cases persisted
      | undescribed => cases persisted
      | unwritten => cases persisted
      | written fetched ofPage described success =>
          obtain ⟨sameMethods, -⟩ := RefreshOutcome.fetched.inj (Except.ok.inj persisted)
          rw [sameMethods] at ofPage described success
          exact ⟨_, fetched, ofPage, described, success⟩

/-- A refresh that does not report a written entry has made the directory at most. -/
theorem refreshTracked_not_persisted
    (notPersisted : ∀ methods, (maintainer.refreshTracked force store trackedClass).result ≠
      .ok (.fetched methods true)) :
    (maintainer.refreshTracked force store trackedClass).store = store ∨
      store.create = .ok (maintainer.refreshTracked force store trackedClass).store := by
  rw [refreshTracked_eq] at notPersisted ⊢
  cases kept : maintainer.kept? force store trackedClass with
  | some candidate => exact Or.inl rfl
  | none =>
      rw [kept] at notPersisted
      dsimp only at notPersisted ⊢
      have ends := fetchEnds_fetch maintainer store trackedClass
      generalize maintainer.fetch store trackedClass = done at ends notPersisted ⊢
      cases ends with
      | failed => exact Or.inl rfl
      | undescribed => exact Or.inl rfl
      | unwritten => exact prepare_made store
      | written => exact absurd rfl (notPersisted _)

/-- How a refresh can end.  The system may refuse to write a file for reasons that the store does
not show.  Nothing of the file is written then, though the directory may have been made. -/
inductive CanEnd (maintainer : Maintainer) (force : Bool) (store : CacheStore)
    (className : String) : RefreshResult → CacheStore → Prop
  | regular :
      CanEnd maintainer force store className (maintainer.refresh force store className).result
        (maintainer.refresh force store className).store
  | refused {methods : MethodTable} {after : CacheStore}
      (intended : (maintainer.refresh force store className).result = .ok (.fetched methods true))
      (unwritten : after = store ∨ store.create = .ok after) :
      CanEnd maintainer force store className (.ok (.fetched methods false)) after

/-- A refresh that reports a written entry has written the one file of its class, with the methods
of the page, which are some, the headers of the page and the time; all this is read back, by a new
catalog too, as long as the counts fit into eight bytes.  A refresh that reports anything else has
left all files as they were, and the methods that it reports as kept are those of the cache. -/
theorem refresh_installs_or_keeps (maintainer : Maintainer) (force : Bool) (store : CacheStore)
    (className : String) (result : RefreshResult) (after : CacheStore) :
    maintainer.CanEnd force store className result after →
    match result with
    | .ok (.fetched methods true) =>
      methods.isEmpty = false ∧
        (∀ name, name ≠ CacheDirectory.fileName className →
          after.directory.node? name = store.directory.node? name) ∧
        (∀ name, name ∈ after.directory.names ↔
          name = CacheDirectory.fileName className ∨ name ∈ store.directory.names) ∧
        ∃ trackedClass page, TrackedClass.name trackedClass = className ∧
          maintainer.site.fetch trackedClass.page = .ok page ∧
          methods = methodsOfMarkup page.markup ∧
          (methods.Fits →
            after.read? className =
                some ⟨className, methods, some page.headers, some maintainer.now⟩ ∧
              after.readMethods? className = some methods ∧
              (Catalog.unloaded.get after className).1 = some methods)
    | .ok (.fetched _ false) | .error _ => store.SameFiles after
    | .ok (.reused methods) =>
      store.SameFiles after ∧ after.readMethods? className = some methods := by
  intro ends
  cases ends with
  | refused intended unwritten => exact CacheStore.sameFiles_of_made unwritten
  | regular =>
      cases tracked : TrackedClass.ofName? className with
      | none =>
          rw [refresh_of_untracked tracked]
          exact CacheStore.sameFiles_of_made (Or.inl rfl)
      | some trackedClass =>
          obtain rfl := TrackedClass.ofName?_eq_some_iff.mp tracked
          rw [refresh_name]
          cases reported : (maintainer.refreshTracked force store trackedClass).result with
          | error failure =>
              apply CacheStore.sameFiles_of_made
              apply refreshTracked_not_persisted
              simp [reported]
          | ok outcome =>
              cases outcome with
              | reused methods =>
                  obtain ⟨untouched, kept⟩ := refreshTracked_reused reported
                  dsimp only
                  rw [untouched]
                  exact ⟨CacheStore.sameFiles_of_made (Or.inl rfl), kept⟩
              | fetched methods persisted =>
                  cases persisted with
                  | false =>
                      apply CacheStore.sameFiles_of_made
                      apply refreshTracked_not_persisted
                      simp [reported]
                  | true =>
                      obtain ⟨page, fetched, ofPage, described, success⟩ :=
                        refreshTracked_persisted reported
                      refine ⟨described, ?_, ?_, trackedClass, page, rfl, fetched, ofPage, ?_⟩
                      · intro name different
                        exact CacheStore.directory_node?_of_write success different
                      · intro name
                        exact CacheStore.mem_names_of_write success name
                      · intro fits
                        have own := CacheStore.tryRead_of_write success fits
                        have ownMethods := CacheStore.readMethods?_of_tryRead own
                        rw [described] at ownMethods
                        exact ⟨CacheStore.read?_of_tryRead own, ownMethods,
                          Catalog.get_unloaded_fst ownMethods⟩

/-- A page that describes one method. -/
def pageOfOneMethod : FetchedPage where
  markup := "<div class=memitem><div class=memproto>IsOpen(town)"
  headers := ⟨some "\"v1\"", none, some "max-age=60", none, none⟩

/-- A maintainer whose site gives the one page for every class. -/
def oneMethodMaintainer : Maintainer :=
  ⟨⟨id, fun _ => .ok pageOfOneMethod.headers, fun _ => .ok pageOfOneMethod⟩, .epoch⟩

theorem methodsOfMarkup_pageOfOneMethod :
    methodsOfMarkup pageOfOneMethod.markup = .ofPairs [("IsOpen", 1)] := by
  decide +kernel

theorem fits_isOpen : (MethodTable.ofPairs [("IsOpen", 1)]).Fits := by
  unfold MethodTable.Fits AritySet.Fits
  decide

theorem accepts_of_absent (path : String) (trackedClass : TrackedClass) :
    CacheStore.accepts ⟨path, .absent⟩ trackedClass.name = true := by
  rw [CacheStore.accepts_name_iff]
  exact ⟨rfl, by simp [CacheStore.node?, CacheDirectory.node?]⟩

theorem refresh_installs_pageOfOneMethod :
    ∃ after, oneMethodMaintainer.CanEnd false ⟨"cache", .absent⟩ "GSGoal"
        (.ok (.fetched (.ofPairs [("IsOpen", 1)]) true)) after ∧
      after.read? "GSGoal" = some ⟨"GSGoal", .ofPairs [("IsOpen", 1)],
        some pageOfOneMethod.headers, some .epoch⟩ := by
  have reported : (oneMethodMaintainer.refresh false ⟨"cache", .absent⟩ "GSGoal").result =
      .ok (.fetched (.ofPairs [("IsOpen", 1)]) true) := by
    have nothingKept : oneMethodMaintainer.kept? false ⟨"cache", .absent⟩ .goal = none := rfl
    have found : oneMethodMaintainer.site.fetch TrackedClass.goal.page = .ok pageOfOneMethod := rfl
    have single := refresh_name oneMethodMaintainer false ⟨"cache", .absent⟩ .goal
    rw [TrackedClass.name] at single
    rw [single, refreshTracked_eq, nothingKept]
    dsimp only
    rw [fetch_fst, found, accepts_of_absent, Except.map, methodsOfMarkup_pageOfOneMethod]
    rfl
  have ends : oneMethodMaintainer.CanEnd false ⟨"cache", .absent⟩ "GSGoal" _ _ := .regular
  rw [reported] at ends
  obtain ⟨-, -, -, trackedClass, page, -, fetched, -, reads⟩ :=
    refresh_installs_or_keeps _ _ _ _ _ _ ends
  cases fetched
  exact ⟨_, ends, (reads fits_isOpen).1⟩

end Maintainer

end ScriptLint
