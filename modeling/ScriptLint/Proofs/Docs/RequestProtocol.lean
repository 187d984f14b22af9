import ScriptLint.Proofs.Docs.RefreshEffects

/-!
# The requests of a refresh

What a refresh asks of the site is settled by the entry in the cache, by the answer about its
headers, and by whether the refresh is forced.  It fails with the failure of its fetch and with no
other.  A forced refresh does not look at the file that it replaces.
-/

namespace ScriptLint.Maintainer

variable {maintainer : Maintainer} {force : Bool} {store other : CacheStore}
variable {trackedClass : TrackedClass} {methods : MethodTable} {kept : ValidationHeaders}

/-- The site is not asked about a file without an entry that has methods and headers. -/
theorem asked?_eq_none
    (unusable : ∀ entry, store.read? trackedClass.name = some entry →
      entry.methods.isEmpty = true ∨ entry.headers = none) :
    asked? force store trackedClass = none := by
  rw [Option.eq_none_iff_forall_ne_some]
  intro candidate asked
  obtain ⟨-, entry, found, described, headersEq, -⟩ := asked?_eq_some_iff.mp asked
  rcases unusable entry found with noMethods | noHeaders
  · rw [described] at noMethods
    cases noMethods
  · rw [noHeaders] at headersEq
    cases headersEq

theorem requests_of_not_asked (notAsked : asked? force store trackedClass = none) :
    (maintainer.refreshTracked force store trackedClass).requests =
      [.fetch trackedClass.page] := by
  rw [refreshTracked_eq, kept?, probes, notAsked]
  rfl

theorem refreshTracked_of_confirmed
    (asked : asked? force store trackedClass = some (methods, kept))
    (confirmed : maintainer.confirms trackedClass.page kept = true) :
    maintainer.refreshTracked force store trackedClass =
      ⟨.ok (.reused methods), store, [.head trackedClass.page]⟩ := by
  have keeps := kept?_eq_some_iff.mpr ⟨asked, confirmed⟩
  rw [refreshTracked_eq, keeps, probes, asked]
  rfl

theorem requests_of_not_confirmed
    (asked : asked? force store trackedClass = some (methods, kept))
    (notConfirmed : maintainer.confirms trackedClass.page kept = false) :
    (maintainer.refreshTracked force store trackedClass).requests =
      [.head trackedClass.page, .fetch trackedClass.page] := by
  have keepsNone : maintainer.kept? force store trackedClass = none := by
    rw [kept?, asked]
    simp [notConfirmed]
  rw [refreshTracked_eq, keepsNone, probes, asked]
  rfl

/-- The site is asked about the headers of an entry, and for the page unless the answer shows the
entry to be fresh. -/
theorem requests_of_entry {name : String} {cachedAt : Option Calendar.Instant}
    (found : store.read? trackedClass.name = some ⟨name, methods, some kept, cachedAt⟩)
    (described : methods.isEmpty = false) :
    match maintainer.site.head trackedClass.page with
    | .ok live =>
      if Freshness.assess (some kept) live maintainer.now = .fresh then
        (maintainer.refreshTracked false store trackedClass).requests =
            [.head trackedClass.page] ∧
          (maintainer.refreshTracked false store trackedClass).result = .ok (.reused methods)
      else
        (maintainer.refreshTracked false store trackedClass).requests =
          [.head trackedClass.page, .fetch trackedClass.page]
    | .error _ =>
      (maintainer.refreshTracked false store trackedClass).requests =
        [.head trackedClass.page, .fetch trackedClass.page] := by
  have asked : asked? false store trackedClass = some (methods, kept) :=
    asked?_eq_some_iff.mpr ⟨rfl, _, found, described, rfl, rfl⟩
  cases answer : maintainer.site.head trackedClass.page with
  | error failure =>
      apply requests_of_not_confirmed asked
      rw [confirms, answer]
  | ok live =>
      dsimp only
      split_ifs with fresh
      · have confirmed := confirms_iff.mpr ⟨live, answer, fresh⟩
        rw [refreshTracked_of_confirmed asked confirmed]
        exact ⟨rfl, rfl⟩
      · apply requests_of_not_confirmed asked
        rw [confirms, answer]
        simpa [Freshness.needsRefresh] using fresh

/-- A refresh fails when it fetches the page and the fetch fails, and then as the fetch does. -/
theorem result_eq_error_iff {failure : DocsError} :
    (maintainer.refreshTracked force store trackedClass).result = .error failure ↔
      Request.fetch trackedClass.page ∈
          (maintainer.refreshTracked force store trackedClass).requests ∧
        maintainer.site.fetch trackedClass.page = .error failure := by
  rw [fetch_mem_requests_refreshTracked, refreshTracked_eq]
  cases maintainer.kept? force store trackedClass with
  | some candidate => simp
  | none =>
      dsimp only
      rw [fetch_fst]
      cases maintainer.site.fetch trackedClass.page with
      | error cause => simp [Except.map]
      | ok page => simp [Except.map]

theorem refreshTracked_forced (maintainer : Maintainer) (store : CacheStore)
    (trackedClass : TrackedClass) :
    maintainer.refreshTracked true store trackedClass =
      ⟨(maintainer.fetch store trackedClass).1, (maintainer.fetch store trackedClass).2,
        [.fetch trackedClass.page]⟩ :=
  rfl

/-- All that a forced refresh notices of the cache is whether it can write the file. -/
theorem result_forced_eq (maintainer : Maintainer)
    (acceptsEq : other.accepts trackedClass.name = store.accepts trackedClass.name) :
    (maintainer.refreshTracked true other trackedClass).result =
      (maintainer.refreshTracked true store trackedClass).result := by
  rw [refreshTracked_forced, refreshTracked_forced]
  dsimp only
  rw [fetch_fst, fetch_fst, acceptsEq]

/-- Two refreshes that report the same written methods leave the same file. -/
theorem node?_eq_of_persisted {otherForce : Bool}
    (persisted : (maintainer.refreshTracked force store trackedClass).result =
      .ok (.fetched methods true))
    (alsoPersisted : (maintainer.refreshTracked otherForce other trackedClass).result =
      .ok (.fetched methods true)) :
    (maintainer.refreshTracked otherForce other trackedClass).store.node? trackedClass.name =
      (maintainer.refreshTracked force store trackedClass).store.node? trackedClass.name := by
  obtain ⟨page, fetched, -, -, written⟩ := refreshTracked_persisted persisted
  obtain ⟨otherPage, alsoFetched, -, -, alsoWritten⟩ := refreshTracked_persisted alsoPersisted
  obtain rfl : page = otherPage := Except.ok.inj (fetched.symm.trans alsoFetched)
  rw [CacheStore.node?_of_write written, CacheStore.node?_of_write alsoWritten, if_pos rfl,
    if_pos rfl]

theorem accepts_eq_of_same_obstacles
    (blockedEq : other.directory.isBlocked = store.directory.isBlocked)
    (directoryIff : other.node? trackedClass.name = some .directory ↔
      store.node? trackedClass.name = some .directory) :
    other.accepts trackedClass.name = store.accepts trackedClass.name := by
  rw [Bool.eq_iff_iff, CacheStore.accepts_name_iff, CacheStore.accepts_name_iff, blockedEq, ne_eq,
    ne_eq, directoryIff]

/-- A class that is not tracked is refused without a request.  For a tracked class a refresh fetches
the page at once if it is forced, or if the file of the class does not hold an entry with methods
and headers.  Otherwise it first asks for the headers, and keeps the methods of the file when these
are had and show the entry to be fresh; else it fetches the page.  It fails exactly when it fetches
and the fetch fails, with the failure of the fetch.  If it is forced, neither what it reports and
asks for nor the file that it reports to have written depends on what the file held before. -/
theorem refresh_follows_protocol (maintainer : Maintainer) (force : Bool) (store : CacheStore)
    (className : String) :
    match TrackedClass.ofName? className with
    | none => maintainer.refresh force store className = ⟨.error (.untracked className), store, []⟩
    | some trackedClass =>
      let page := trackedClass.page
      let done := maintainer.refresh force store className
      (match if force then none else store.read? className with
        | some ⟨_, methods, some kept, _⟩ =>
          if methods.isEmpty then done.requests = [.fetch page]
          else
            match maintainer.site.head page with
            | .ok live =>
              if Freshness.assess (some kept) live maintainer.now = .fresh then
                done.requests = [.head page] ∧ done.result = .ok (.reused methods)
              else done.requests = [.head page, .fetch page]
            | .error _ => done.requests = [.head page, .fetch page]
        | _ => done.requests = [.fetch page]) ∧
        (∀ failure, done.result = .error failure ↔
          Request.fetch page ∈ done.requests ∧ maintainer.site.fetch page = .error failure) ∧
        (force = true → ∀ other : CacheStore,
          other.directory.isBlocked = store.directory.isBlocked →
          (other.node? className = some .directory ↔ store.node? className = some .directory) →
            let again := maintainer.refresh force other className
            again.result = done.result ∧ again.requests = done.requests ∧
              ∀ methods, done.result = .ok (.fetched methods true) →
                again.store.node? className = done.store.node? className) := by
  cases tracked : TrackedClass.ofName? className with
  | none => exact refresh_of_untracked tracked
  | some trackedClass =>
      obtain rfl := TrackedClass.ofName?_eq_some_iff.mp tracked
      simp only [refresh_name]
      refine ⟨?_, fun failure => result_eq_error_iff, ?_⟩
      · cases force with
        | true => exact requests_of_not_asked rfl
        | false =>
            rw [if_neg Bool.false_ne_true]
            cases found : store.read? trackedClass.name with
            | none => exact requests_of_not_asked (asked?_eq_none (by simp [found]))
            | some entry =>
                obtain ⟨className, methods, headers, cachedAt⟩ := entry
                cases headers with
                | none => exact requests_of_not_asked (asked?_eq_none (by simp [found]))
                | some kept =>
                    dsimp only
                    split_ifs with noMethods
                    · exact requests_of_not_asked (asked?_eq_none (by simp [found, noMethods]))
                    · exact requests_of_entry found (Bool.eq_false_of_not_eq_true noMethods)
      · rintro rfl other blockedEq directoryIff
        have acceptsEq := accepts_eq_of_same_obstacles blockedEq directoryIff
        have resultEq := result_forced_eq maintainer acceptsEq
        refine ⟨resultEq, rfl, ?_⟩
        intro methods persisted
        exact node?_eq_of_persisted persisted (resultEq.trans persisted)

end ScriptLint.Maintainer
