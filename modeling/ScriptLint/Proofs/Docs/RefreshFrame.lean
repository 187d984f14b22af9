import ScriptLint.Docs.Maintenance
import ScriptLint.Proofs.Cache.StoreFrame

/-!
# What a refresh reads and writes

A refresh of a class looks at the file of that class alone, and writes that file alone.  So its
result, its requests and the file that it leaves are the same from any two stores that agree on the
class, and it leaves the store as it was as far as any other class can tell.
-/

namespace ScriptLint

theorem TrackedClass.page_injective {first second : TrackedClass}
    (same : first.page = second.page) : first = second := by
  have named := (String.append_left_inj ".html").mp same
  exact name_injective ((String.append_right_inj "class").mp named)

namespace Maintainer

variable {maintainer : Maintainer} {force : Bool} {store first second : CacheStore}
variable {trackedClass other : TrackedClass} {className otherName : String} {entry : CacheEntry}

theorem prepare_agreeOn (store : CacheStore) (className : String) :
    (prepare store).AgreeOn store className := by
  obtain ⟨path, directory⟩ := store
  cases directory <;> exact ⟨rfl, rfl⟩

theorem names_prepare (store : CacheStore) :
    (prepare store).directory.names = store.directory.names := by
  obtain ⟨path, directory⟩ := store
  cases directory <;> rfl

theorem persist_fst (store : CacheStore) (className : String) (entry : CacheEntry) :
    (persist store className entry).1 = store.accepts className := by
  rw [persist, ← CacheStore.isOk_write store className entry]
  cases store.write className entry <;> rfl

theorem node?_persist (store : CacheStore) (className otherName : String) (entry : CacheEntry) :
    (persist store className entry).2.node? otherName =
      if otherName = className ∧ store.accepts className then
        some (.file entry.fileText.toUTF8)
      else store.node? otherName := by
  have outcome := CacheStore.isOk_write store className entry
  rw [persist]
  cases written : store.write className entry with
  | ok after =>
      rw [written] at outcome
      have accepted : store.accepts className = true := outcome.symm
      simp only [CacheStore.node?_of_write written, accepted, and_true]
  | error failure =>
      rw [written] at outcome
      have refused : store.accepts className = false := outcome.symm
      simp only [refused, Bool.false_eq_true, and_false, if_false]
      exact (prepare_agreeOn store otherName).node_eq

theorem isBlocked_persist (store : CacheStore) (className : String) (entry : CacheEntry) :
    (persist store className entry).2.directory.isBlocked = store.directory.isBlocked := by
  rw [persist]
  cases written : store.write className entry with
  | ok after =>
      obtain ⟨before, afterwards⟩ := CacheStore.isBlocked_of_write written
      exact afterwards.trans before.symm
  | error failure => exact (prepare_agreeOn store className).blocked_eq

theorem mem_names_persist {name : String}
    (known : name ∈ (persist store className entry).2.directory.names) :
    name ∈ store.directory.names ∨ name = CacheDirectory.fileName className := by
  rw [persist] at known
  cases written : store.write className entry with
  | ok after =>
      rw [written] at known
      exact ((CacheStore.mem_names_of_write written name).mp known).symm
  | error failure =>
      rw [written] at known
      exact Or.inl (names_prepare store ▸ known)

/-- The entry that a fetch of the page of a class gives, if the page can be had and describes a
method. -/
def entryFetched? (maintainer : Maintainer) (trackedClass : TrackedClass) : Option CacheEntry :=
  match maintainer.site.fetch trackedClass.page with
  | .error _ => none
  | .ok page =>
    let methods := methodsOfMarkup page.markup
    if methods.isEmpty then none
    else some ⟨trackedClass.name, methods, some page.headers, some maintainer.now⟩

theorem fetch_snd (maintainer : Maintainer) (store : CacheStore) (trackedClass : TrackedClass) :
    (maintainer.fetch store trackedClass).2 =
      match maintainer.entryFetched? trackedClass with
      | none => store
      | some entry => (persist store trackedClass.name entry).2 := by
  rw [fetch, entryFetched?]
  cases maintainer.site.fetch trackedClass.page with
  | error failure => rfl
  | ok page => dsimp only; split_ifs <;> rfl

theorem fetch_fst_eq (agree : first.AgreeOn second trackedClass.name) :
    (maintainer.fetch first trackedClass).1 = (maintainer.fetch second trackedClass).1 := by
  rw [fetch, fetch]
  cases maintainer.site.fetch trackedClass.page with
  | error failure => rfl
  | ok page =>
      dsimp only
      split_ifs
      · rfl
      · simp only [persist_fst, agree.accepts_eq]

theorem candidate?_eq (agree : first.AgreeOn second className) :
    candidate? first className = candidate? second className := by
  rw [candidate?, candidate?, agree.readUsable?_eq]

theorem refresh_name (maintainer : Maintainer) (force : Bool) (store : CacheStore)
    (trackedClass : TrackedClass) :
    maintainer.refresh force store trackedClass.name =
      maintainer.refreshTracked force store trackedClass := by
  rw [refresh, TrackedClass.ofName?_name]

theorem refresh_of_untracked (untracked : TrackedClass.ofName? className = none) :
    maintainer.refresh force store className = ⟨.error (.untracked className), store, []⟩ := by
  rw [refresh, untracked]

/-- The entry in the store that a refresh asks the site to confirm. -/
def asked? (force : Bool) (store : CacheStore) (trackedClass : TrackedClass) :
    Option (MethodTable × ValidationHeaders) :=
  if force then none else candidate? store trackedClass.name

/-- The entry in the store that a refresh keeps because the site confirms it. -/
def kept? (maintainer : Maintainer) (force : Bool) (store : CacheStore)
    (trackedClass : TrackedClass) : Option (MethodTable × ValidationHeaders) :=
  (asked? force store trackedClass).filter fun (_, kept) =>
    maintainer.confirms trackedClass.page kept

/-- The requests with which a refresh begins. -/
def probes (force : Bool) (store : CacheStore) (trackedClass : TrackedClass) : List Request :=
  if (asked? force store trackedClass).isSome then [.head trackedClass.page] else []

/-- A refresh keeps the confirmed entry and leaves the store as it is, or it fetches the page. -/
theorem refreshTracked_eq (maintainer : Maintainer) (force : Bool) (store : CacheStore)
    (trackedClass : TrackedClass) :
    maintainer.refreshTracked force store trackedClass =
      match maintainer.kept? force store trackedClass with
      | some (methods, _) => ⟨.ok (.reused methods), store, probes force store trackedClass⟩
      | none =>
        ⟨(maintainer.fetch store trackedClass).1, (maintainer.fetch store trackedClass).2,
          probes force store trackedClass ++ [.fetch trackedClass.page]⟩ :=
  rfl

theorem eq_head_of_mem_probes {request : Request}
    (member : request ∈ probes force store trackedClass) : request = .head trackedClass.page := by
  rw [probes] at member
  split_ifs at member
  · exact List.mem_singleton.mp member
  · cases member

/-- A refresh asks for the page of its class only. -/
theorem mem_requests_refreshTracked {request : Request}
    (member : request ∈ (maintainer.refreshTracked force store trackedClass).requests) :
    request = .head trackedClass.page ∨ request = .fetch trackedClass.page := by
  rw [refreshTracked_eq] at member
  cases kept : maintainer.kept? force store trackedClass with
  | some methods =>
      rw [kept] at member
      exact Or.inl (eq_head_of_mem_probes member)
  | none =>
      rw [kept] at member
      rcases List.mem_append.mp member with asked | fetched
      · exact Or.inl (eq_head_of_mem_probes asked)
      · exact Or.inr (List.mem_singleton.mp fetched)

/-- A refresh fetches the page of its class unless it keeps the entry in the store. -/
theorem fetch_mem_requests_refreshTracked :
    .fetch other.page ∈ (maintainer.refreshTracked force store trackedClass).requests ↔
      other = trackedClass ∧ maintainer.kept? force store trackedClass = none := by
  constructor
  · intro member
    rcases mem_requests_refreshTracked member with isHead | isFetch
    · cases isHead
    · refine ⟨TrackedClass.page_injective (Request.fetch.inj isFetch), ?_⟩
      rw [refreshTracked_eq] at member
      cases kept : maintainer.kept? force store trackedClass with
      | some methods =>
          rw [kept] at member
          cases eq_head_of_mem_probes member
      | none => rfl
  · rintro ⟨rfl, kept⟩
    rw [refreshTracked_eq, kept]
    exact List.mem_append_right _ (List.mem_singleton_self _)

/-- The entry that a refresh writes into the store: the one that it fetches, if it keeps none and
the file can be written. -/
def saved? (maintainer : Maintainer) (force : Bool) (store : CacheStore)
    (trackedClass : TrackedClass) : Option CacheEntry :=
  if (maintainer.kept? force store trackedClass).isSome ∨ !store.accepts trackedClass.name then none
  else maintainer.entryFetched? trackedClass

theorem asked?_eq (agree : first.AgreeOn second trackedClass.name) :
    asked? force first trackedClass = asked? force second trackedClass := by
  rw [asked?, asked?, candidate?_eq agree]

theorem kept?_eq (agree : first.AgreeOn second trackedClass.name) :
    maintainer.kept? force first trackedClass = maintainer.kept? force second trackedClass := by
  rw [kept?, kept?, asked?_eq agree]

theorem saved?_eq (agree : first.AgreeOn second trackedClass.name) :
    maintainer.saved? force first trackedClass = maintainer.saved? force second trackedClass := by
  rw [saved?, saved?, kept?_eq agree, agree.accepts_eq]

theorem refreshTracked_store (maintainer : Maintainer) (force : Bool) (store : CacheStore)
    (trackedClass : TrackedClass) :
    (maintainer.refreshTracked force store trackedClass).store =
      if (maintainer.kept? force store trackedClass).isSome then store
      else (maintainer.fetch store trackedClass).2 := by
  rw [refreshTracked_eq]
  cases maintainer.kept? force store trackedClass <;> rfl

/-- A refresh writes one file at most, that of its class. -/
theorem node?_refreshTracked (maintainer : Maintainer) (force : Bool) (store : CacheStore)
    (trackedClass : TrackedClass) (otherName : String) :
    (maintainer.refreshTracked force store trackedClass).store.node? otherName =
      match maintainer.saved? force store trackedClass with
      | none => store.node? otherName
      | some entry =>
        if otherName = trackedClass.name then some (.file entry.fileText.toUTF8)
        else store.node? otherName := by
  rw [refreshTracked_store, saved?]
  by_cases keeps : (maintainer.kept? force store trackedClass).isSome
  · simp [keeps]
  · rw [if_neg keeps, fetch_snd]
    cases maintainer.entryFetched? trackedClass with
    | none => simp
    | some entry =>
        rw [node?_persist]
        cases accepted : store.accepts trackedClass.name <;> simp [keeps]

theorem isBlocked_refreshTracked (maintainer : Maintainer) (force : Bool) (store : CacheStore)
    (trackedClass : TrackedClass) :
    (maintainer.refreshTracked force store trackedClass).store.directory.isBlocked =
      store.directory.isBlocked := by
  rw [refreshTracked_store]
  split_ifs
  · rfl
  · rw [fetch_snd]
    cases maintainer.entryFetched? trackedClass with
    | none => rfl
    | some entry => exact isBlocked_persist store trackedClass.name entry

/-- No name but that of the file of its class comes into the directory by a refresh. -/
theorem mem_names_refreshTracked {name : String}
    (known : name ∈ (maintainer.refreshTracked force store trackedClass).store.directory.names) :
    name ∈ store.directory.names ∨ name = CacheDirectory.fileName trackedClass.name := by
  rw [refreshTracked_store] at known
  split_ifs at known
  · exact Or.inl known
  · rw [fetch_snd] at known
    cases fetched : maintainer.entryFetched? trackedClass with
    | none =>
        rw [fetched] at known
        exact Or.inl known
    | some entry =>
        rw [fetched] at known
        exact mem_names_persist known

/-- Other classes cannot tell that a class has been refreshed. -/
theorem refreshTracked_agreeOn_of_ne (maintainer : Maintainer) (force : Bool)
    (different : otherName ≠ trackedClass.name) :
    (maintainer.refreshTracked force store trackedClass).store.AgreeOn store otherName where
  blocked_eq := isBlocked_refreshTracked maintainer force store trackedClass
  node_eq := by
    rw [node?_refreshTracked]
    cases maintainer.saved? force store trackedClass with
    | none => rfl
    | some entry => exact if_neg different

theorem refreshTracked_agreeOn (agree : first.AgreeOn second trackedClass.name) :
    (maintainer.refreshTracked force first trackedClass).store.AgreeOn
      (maintainer.refreshTracked force second trackedClass).store trackedClass.name where
  blocked_eq := by
    rw [isBlocked_refreshTracked, isBlocked_refreshTracked, agree.blocked_eq]
  node_eq := by
    rw [node?_refreshTracked, node?_refreshTracked, saved?_eq agree, agree.node_eq]

/-- The result and the requests of a refresh depend only on what its class can tell. -/
theorem refreshTracked_result_eq (maintainer : Maintainer) (force : Bool)
    (agree : first.AgreeOn second trackedClass.name) :
    (maintainer.refreshTracked force first trackedClass).result =
        (maintainer.refreshTracked force second trackedClass).result ∧
      (maintainer.refreshTracked force first trackedClass).requests =
        (maintainer.refreshTracked force second trackedClass).requests := by
  rw [refreshTracked_eq, refreshTracked_eq, kept?_eq agree, probes, probes, asked?_eq agree]
  cases maintainer.kept? force second trackedClass with
  | some kept => exact ⟨rfl, rfl⟩
  | none => exact ⟨fetch_fst_eq agree, rfl⟩

end Maintainer

end ScriptLint
