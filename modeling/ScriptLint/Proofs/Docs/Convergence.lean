import ScriptLint.Proofs.Docs.DecidingHeaders
import ScriptLint.Proofs.Docs.RequestProtocol
import ScriptLint.Proofs.Docs.SavedEntries
import ScriptLint.Proofs.Docs.UpdateIsolation

/-!
# Updates that have nothing left to do

A site that does not change is fetched from once.  After an update every class has an entry whose
headers the site confirms, be it one that was kept or one that was fetched, so the next update asks
for headers alone and writes nothing.  An entry that was kept for its age may become stale with the
time; one that was fetched holds the headers of the page itself, and these are confirmed at any
time.
-/

namespace ScriptLint

open Calendar

/-- A site that has a page to offer, with methods, and the same headers for it whether or not the
page itself is asked for. -/
structure Site.Provides (site : Site) (page : String) (content : FetchedPage) : Prop where
  fetch_eq : site.fetch page = .ok content
  head_eq : site.head page = .ok content.headers
  identified : content.headers.Identify
  described : (methodsOfMarkup content.markup).isEmpty = false
  /-- The counts are numbers of eight bytes, as those in the files of the cache are. -/
  fits : (methodsOfMarkup content.markup).Fits

def Request.page : Request → String
  | head page => page
  | fetch page => page

namespace Maintainer

variable {maintainer : Maintainer} {force : Bool} {store : CacheStore}
variable {trackedClass : TrackedClass} {classes : List TrackedClass} {content : FetchedPage}

theorem confirms_headers {page : String} (provides : maintainer.site.Provides page content) :
    maintainer.confirms page content.headers = true :=
  confirms_iff.mpr
    ⟨content.headers, provides.head_eq, Freshness.assess_self provides.identified _⟩

/-- A store in which a refresh has nothing to do: it holds methods of a class with headers that the
site confirms. -/
def Settled (maintainer : Maintainer) (store : CacheStore) (trackedClass : TrackedClass)
    (methods : MethodTable) : Prop :=
  ∃ kept, asked? false store trackedClass = some (methods, kept) ∧
    maintainer.confirms trackedClass.page kept = true

theorem Settled.of_agreeOn {other : CacheStore} {methods : MethodTable}
    (settled : maintainer.Settled store trackedClass methods)
    (agree : other.AgreeOn store trackedClass.name) :
    maintainer.Settled other trackedClass methods := by
  obtain ⟨kept, asked, confirmed⟩ := settled
  exact ⟨kept, (asked?_eq agree).trans asked, confirmed⟩

theorem Settled.refreshTracked_eq {methods : MethodTable}
    (settled : maintainer.Settled store trackedClass methods) :
    maintainer.refreshTracked false store trackedClass =
      ⟨.ok (.reused methods), store, [.head trackedClass.page]⟩ := by
  obtain ⟨kept, asked, confirmed⟩ := settled
  exact refreshTracked_of_confirmed asked confirmed

/-- After an entry has been written, the site is asked next about the headers that it came with. -/
theorem asked?_of_persisted {methods : MethodTable}
    (persisted : (maintainer.refreshTracked force store trackedClass).result =
      .ok (.fetched methods true))
    (fits : methods.Fits) :
    ∃ page, maintainer.site.fetch trackedClass.page = .ok page ∧
      asked? false (maintainer.refreshTracked force store trackedClass).store trackedClass =
        some (methods, page.headers) := by
  obtain ⟨page, fetched, -, described, success⟩ := refreshTracked_persisted persisted
  have found := CacheStore.read?_of_tryRead (CacheStore.tryRead_of_write success fits)
  exact ⟨page, fetched, asked?_eq_some_iff.mpr ⟨rfl, _, found, described, rfl, rfl⟩⟩

/-- After a refresh of a class that the site provides there is nothing left to do for it.  If its
page was fetched, then this does not depend on the time. -/
theorem refreshTracked_settles (force : Bool)
    (provides : maintainer.site.Provides trackedClass.page content)
    (writable : store.accepts trackedClass.name = true) :
    ∃ outcome, (maintainer.refreshTracked force store trackedClass).result = .ok outcome ∧
      maintainer.Settled (maintainer.refreshTracked force store trackedClass).store trackedClass
        outcome.methods ∧
      ∀ methods persisted, outcome = .fetched methods persisted → ∀ now : Instant,
        Settled ⟨maintainer.site, now⟩ (maintainer.refreshTracked force store trackedClass).store
          trackedClass methods := by
  cases kept : maintainer.kept? force store trackedClass with
  | some candidate =>
      obtain ⟨methods, headers⟩ := candidate
      obtain ⟨asked, confirmed⟩ := kept?_eq_some_iff.mp kept
      obtain ⟨rfl, -⟩ := asked?_eq_some_iff.mp asked
      rw [refreshTracked_of_confirmed asked confirmed]
      refine ⟨.reused methods, rfl, ⟨headers, asked, confirmed⟩, ?_⟩
      intro otherMethods persisted isFetched
      cases isFetched
  | none =>
      have reported : (maintainer.refreshTracked force store trackedClass).result =
          .ok (.fetched (methodsOfMarkup content.markup) true) := by
        rw [Maintainer.refreshTracked_eq, kept]
        dsimp only
        rw [fetch_fst, provides.fetch_eq, Except.map, provides.described, writable]
        rfl
      have fits := provides.fits
      -- What the table is does not matter from here on.
      generalize methodsOfMarkup content.markup = methods at reported fits
      obtain ⟨page, fetched, asked⟩ := asked?_of_persisted reported fits
      obtain rfl : content = page := Except.ok.inj (provides.fetch_eq.symm.trans fetched)
      refine ⟨.fetched methods true, reported,
        ⟨content.headers, asked, confirms_headers provides⟩, ?_⟩
      intro otherMethods persisted isFetched now
      obtain ⟨rfl, -⟩ := RefreshOutcome.fetched.inj isFetched
      have providesThen : (Maintainer.mk maintainer.site now).site.Provides trackedClass.page
          content := provides
      exact ⟨content.headers, asked, confirms_headers providesThen⟩

/-- An update of settled classes asks for headers alone and leaves the store as it is. -/
theorem refreshUntilFailure_of_settled {methods : TrackedClass → MethodTable}
    (settled : ∀ other ∈ classes, maintainer.Settled store other (methods other)) :
    maintainer.refreshUntilFailure false classes store =
      ⟨.ok (classes.map fun other => (other, .reused (methods other))), store,
        classes.map fun other => .head other.page⟩ := by
  induction classes with
  | nil => rfl
  | cons first rest ih =>
      have here := (settled first List.mem_cons_self).refreshTracked_eq
      have later := ih fun other member => settled other (List.mem_cons_of_mem first member)
      rw [refreshUntilFailure, here]
      dsimp only
      rw [later]
      rfl

theorem page_of_mem_requests {request : Request}
    (member : request ∈ (maintainer.refreshTracked force store trackedClass).requests) :
    request.page = trackedClass.page := by
  rcases mem_requests_refreshTracked member with rfl | rfl
  · rfl
  · rfl

theorem filter_page_requests (maintainer : Maintainer) (force : Bool) (store : CacheStore)
    (refreshed trackedClass : TrackedClass) :
    (maintainer.refreshTracked force store refreshed).requests.filter
        (·.page = trackedClass.page) =
      if refreshed = trackedClass then (maintainer.refreshTracked force store refreshed).requests
      else [] := by
  split_ifs with same
  · subst same
    rw [List.filter_eq_self]
    intro request requested
    exact decide_eq_true (page_of_mem_requests requested)
  · rw [List.filter_eq_nil_iff]
    intro request requested samePage
    have pageEq := (page_of_mem_requests requested).symm.trans (of_decide_eq_true samePage)
    exact same (TrackedClass.page_injective pageEq)

/-- Of the requests of several refreshes, those for the page of a class are those of its refresh. -/
theorem filter_page_flatMap (maintainer : Maintainer) (force : Bool) (store : CacheStore)
    (distinct : classes.Nodup) (member : trackedClass ∈ classes) :
    (classes.flatMap fun other =>
        (maintainer.refreshTracked force store other).requests).filter
        (·.page = trackedClass.page) =
      (maintainer.refreshTracked force store trackedClass).requests := by
  induction classes with
  | nil => cases member
  | cons first rest ih =>
      obtain ⟨notLater, distinctLater⟩ := List.nodup_cons.mp distinct
      rw [List.flatMap_cons, List.filter_append, filter_page_requests]
      rcases List.mem_cons.mp member with rfl | inRest
      · have noneLater : (rest.flatMap fun other =>
            (maintainer.refreshTracked force store other).requests).filter
            (·.page = trackedClass.page) = [] := by
          rw [List.filter_flatMap, List.flatMap_eq_nil_iff]
          intro other otherMem
          have different : other ≠ trackedClass := fun same => notLater (same ▸ otherMem)
          rw [filter_page_requests, if_neg different]
        rw [if_pos rfl, noneLater, List.append_nil]
      · have different : first ≠ trackedClass := fun same => notLater (same ▸ inRest)
        rw [if_neg different, List.nil_append, ih distinctLater inRest]

theorem updateAll_of_settled {methods : TrackedClass → MethodTable}
    (settled : ∀ other, maintainer.Settled store other (methods other)) :
    maintainer.updateAll false store =
      ⟨.ok (TrackedClass.all.map fun other => (other, .reused (methods other))), prepare store,
        TrackedClass.all.map fun other => .head other.page⟩ := by
  rw [updateAll]
  apply refreshUntilFailure_of_settled
  intro other _
  exact (settled other).of_agreeOn (prepare_agreeOn store other.name)

/-- In an update of all tracked classes a settled class keeps its methods and its file, whatever
the others do, and its page is asked about once. -/
theorem updateAll_of_settled_class {methods : MethodTable}
    {outcomes : TrackedClass → RefreshOutcome}
    (settled : maintainer.Settled store trackedClass methods)
    (alone : ∀ other : TrackedClass,
      (maintainer.refreshTracked false store other).result = .ok (outcomes other)) :
    outcomes trackedClass = .reused methods ∧
      (maintainer.updateAll false store).requests.filter (·.page = trackedClass.page) =
        [.head trackedClass.page] ∧
      (maintainer.updateAll false store).store.node? trackedClass.name =
        store.node? trackedClass.name := by
  obtain ⟨-, requestsEq, agree⟩ := updateAll_of_outcomes alone
  have single := settled.refreshTracked_eq
  have ownOutcome := alone trackedClass
  rw [single] at ownOutcome
  have ownRequests := filter_page_flatMap maintainer false store TrackedClass.nodup_all
    trackedClass.mem_all
  have ownFile := (agree trackedClass).node_eq
  rw [single] at ownRequests ownFile
  refine ⟨(Except.ok.inj ownOutcome).symm, ?_, ownFile⟩
  rw [requestsEq]
  exact ownRequests

/-- Let a site that does not change provide the pages of all tracked classes, and let the files of
all classes be writable, whatever they hold.  Then an update succeeds, and the next one at the same
time reports for every class the methods that the first one gave as kept, asks for the headers of
every page once and for nothing else, and leaves all files as they are.  At any other time the next
update succeeds too, and does all this for each class that the first one fetched. -/
theorem update_converges {maintainer : Maintainer} {store : CacheStore}
    {contents : TrackedClass → FetchedPage}
    (provides : ∀ trackedClass : TrackedClass,
      maintainer.site.Provides trackedClass.page (contents trackedClass))
    (writable : ∀ trackedClass : TrackedClass, store.accepts trackedClass.name = true) :
    let first := maintainer.updateAll false store
    let second := maintainer.updateAll false first.store
    ∃ outcomes : TrackedClass → RefreshOutcome,
      first.result = .ok (TrackedClass.all.map fun other => (other, outcomes other)) ∧
      second.result =
        .ok (TrackedClass.all.map fun other => (other, .reused (outcomes other).methods)) ∧
      second.requests = TrackedClass.all.map (fun other => .head other.page) ∧
      first.store.SameFiles second.store ∧
      ∀ now : Instant,
        let again := updateAll ⟨maintainer.site, now⟩ false first.store
        ∃ outcomesThen : TrackedClass → RefreshOutcome,
          again.result = .ok (TrackedClass.all.map fun other => (other, outcomesThen other)) ∧
          ∀ (trackedClass : TrackedClass) (methods : MethodTable) (persisted : Bool),
            outcomes trackedClass = .fetched methods persisted →
              outcomesThen trackedClass = .reused methods ∧
              again.requests.filter (·.page = trackedClass.page) = [.head trackedClass.page] ∧
              again.store.node? trackedClass.name = first.store.node? trackedClass.name := by
  intro first second
  choose outcomes reported settledAlone settledFetched using fun other : TrackedClass =>
    refreshTracked_settles false (provides other) (writable other)
  obtain ⟨firstResult, -, firstAgree⟩ := updateAll_of_outcomes reported
  have settled : ∀ other : TrackedClass,
      maintainer.Settled first.store other (outcomes other).methods := by
    intro other
    exact (settledAlone other).of_agreeOn (firstAgree other)
  have secondEq : second = _ := updateAll_of_settled settled
  rw [secondEq]
  refine ⟨outcomes, firstResult, rfl, rfl, CacheStore.sameFiles_of_made (prepare_made _), ?_⟩
  intro now again
  have stillWritable : ∀ other : TrackedClass, first.store.accepts other.name = true := by
    intro other
    rw [(saves_updateAll maintainer false store).accepts_eq]
    exact writable other
  have providesThen : ∀ other : TrackedClass,
      (Maintainer.mk maintainer.site now).site.Provides other.page (contents other) := provides
  choose outcomesThen reportedThen _ using fun other : TrackedClass =>
    refreshTracked_settles false (providesThen other) (stillWritable other)
  obtain ⟨againResult, -, -⟩ := updateAll_of_outcomes reportedThen
  refine ⟨outcomesThen, againResult, ?_⟩
  intro trackedClass methods persisted isFetched
  have settledThen :=
    (settledFetched trackedClass methods persisted isFetched now).of_agreeOn
      (firstAgree trackedClass)
  exact updateAll_of_settled_class settledThen reportedThen

theorem provides_pageOfOneMethod (page : String) :
    oneMethodMaintainer.site.Provides page pageOfOneMethod where
  fetch_eq := rfl
  head_eq := rfl
  identified := Or.inl (by decide)
  described := by
    rw [methodsOfMarkup_pageOfOneMethod]
    decide
  fits := by
    rw [methodsOfMarkup_pageOfOneMethod]
    exact fits_isOpen

/-- A cache in which one file is cut off after its first character. -/
def damagedStore : CacheStore :=
  ⟨"cache", .present [("GSGoal.json", .file "\x7b".toUTF8)]⟩

theorem accepts_damagedStore (trackedClass : TrackedClass) :
    damagedStore.accepts trackedClass.name = true := by
  rw [CacheStore.accepts_name_iff]
  refine ⟨rfl, ?_⟩
  rw [CacheStore.node?, damagedStore, CacheDirectory.node?, CacheDirectory.lookup_cons_eq_ite]
  split_ifs <;> simp

theorem update_converges_damagedStore :
    (∀ trackedClass : TrackedClass,
      oneMethodMaintainer.site.Provides trackedClass.page pageOfOneMethod ∧
        damagedStore.accepts trackedClass.name = true) ∧
      let first := oneMethodMaintainer.updateAll false damagedStore
      let second := oneMethodMaintainer.updateAll false first.store
      (∃ methods : TrackedClass → MethodTable,
        second.result = .ok (TrackedClass.all.map fun other => (other, .reused (methods other)))) ∧
        second.requests = TrackedClass.all.map (fun other => .head other.page) ∧
        first.store.SameFiles second.store := by
  have provides : ∀ trackedClass : TrackedClass,
      oneMethodMaintainer.site.Provides trackedClass.page pageOfOneMethod :=
    fun trackedClass => provides_pageOfOneMethod trackedClass.page
  obtain ⟨outcomes, -, resultEq, requestsEq, sameFiles, -⟩ :=
    update_converges provides accepts_damagedStore
  exact ⟨fun trackedClass => ⟨provides trackedClass, accepts_damagedStore trackedClass⟩,
    ⟨_, resultEq⟩, requestsEq, sameFiles⟩

end Maintainer

end ScriptLint
