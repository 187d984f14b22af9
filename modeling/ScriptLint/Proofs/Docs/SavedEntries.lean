import ScriptLint.Proofs.Docs.RefreshEffects

/-!
# The entries that maintenance saves

Whatever a maintainer is asked to do, its requests tell which files it has written: those of the
classes whose pages it has fetched, as far as the pages describe a method and the files can be
written.  Every other file is as it was, and no other name comes into the directory.  This holds
also when the system refuses to write some of the files for reasons that the store does not show.
-/

namespace ScriptLint

/-- What the system says when a file is to be written.  If it refuses, nothing of the file is
written, though the directory may have been made. -/
inductive WriteReply where
  | granted
  | refused (made : Bool)
deriving DecidableEq

namespace Maintainer

variable {maintainer : Maintainer} {force : Bool} {replies : TrackedClass → WriteReply}
variable {before between after store : CacheStore} {earlier later requests : List Request}
variable {trackedClass : TrackedClass}

/-- A refresh of a class, with what the system says if the file of the class is to be written. -/
def refreshUnder (maintainer : Maintainer) (force : Bool) (reply : WriteReply)
    (store : CacheStore) (trackedClass : TrackedClass) : Maintained RefreshResult :=
  let regular := maintainer.refreshTracked force store trackedClass
  match reply with
  | .granted => regular
  | .refused made =>
    match regular.result with
    | .ok (.fetched methods true) =>
      ⟨.ok (.fetched methods false), if made then prepare store else store, regular.requests⟩
    | _ => regular

/-- Refreshes classes one after the other, up to the first failure or whatever the results. -/
def refreshAllUnder (maintainer : Maintainer) (force stops : Bool)
    (replies : TrackedClass → WriteReply) : List TrackedClass → CacheStore → Maintained Unit
  | [], store => ⟨(), store, []⟩
  | first :: rest, store =>
    let done := maintainer.refreshUnder force (replies first) store first
    if stops && !done.result.isOk then ⟨(), done.store, done.requests⟩
    else
      let others := maintainer.refreshAllUnder force stops replies rest done.store
      ⟨(), others.store, done.requests ++ others.requests⟩

theorem refreshAllUnder_granted (granted : ∀ trackedClass, replies trackedClass = .granted)
    (classes : List TrackedClass) (store : CacheStore) :
    maintainer.refreshAllUnder force false replies classes store =
      ⟨(), (maintainer.refreshEach force classes store).store,
        (maintainer.refreshEach force classes store).requests⟩ := by
  induction classes generalizing store with
  | nil => rfl
  | cons first rest ih =>
      rw [refreshAllUnder, granted, ih]
      rfl

theorem refreshAllUnder_granted_stops (granted : ∀ trackedClass, replies trackedClass = .granted)
    (classes : List TrackedClass) (store : CacheStore) :
    maintainer.refreshAllUnder force true replies classes store =
      ⟨(), (maintainer.refreshUntilFailure force classes store).store,
        (maintainer.refreshUntilFailure force classes store).requests⟩ := by
  induction classes generalizing store with
  | nil => rfl
  | cons first rest ih =>
      rw [refreshAllUnder, refreshUntilFailure, granted, refreshUnder]
      dsimp only
      cases (maintainer.refreshTracked force store first).result with
      | error failure => rfl
      | ok outcome =>
          rw [ih]
          rfl

theorem requests_refreshUnder (reply : WriteReply) :
    (maintainer.refreshUnder force reply store trackedClass).requests =
      (maintainer.refreshTracked force store trackedClass).requests := by
  cases reply with
  | granted => rfl
  | refused made =>
      rw [refreshUnder.eq_def]
      dsimp only
      split <;> rfl

/-- A refresh to which the system refuses the writing has made the directory at most. -/
theorem store_refreshUnder_refused (made : Bool) :
    (maintainer.refreshUnder force (.refused made) store trackedClass).store = store ∨
      (maintainer.refreshUnder force (.refused made) store trackedClass).store = prepare store := by
  rw [refreshUnder.eq_def]
  dsimp only
  split
  · cases made with
    | false => exact Or.inl rfl
    | true => exact Or.inr rfl
  · rename_i notPersisted
    refine (refreshTracked_not_persisted notPersisted).imp_right fun created => ?_
    rw [prepare, created]
    rfl

/-- What the system says is all that a refresh can meet beside what the store shows. -/
theorem canEnd_iff {result : RefreshResult} :
    maintainer.CanEnd force store trackedClass.name result after ↔
      ∃ reply, (maintainer.refreshUnder force reply store trackedClass).result = result ∧
        (maintainer.refreshUnder force reply store trackedClass).store = after := by
  constructor
  · intro ends
    cases ends with
    | regular =>
        rw [refresh_name]
        exact ⟨.granted, rfl, rfl⟩
    | refused intended unwritten =>
        rw [refresh_name] at intended
        rcases unwritten with rfl | created
        · exact ⟨.refused false, by simp [refreshUnder, intended], by simp [refreshUnder, intended]⟩
        · refine ⟨.refused true, by simp [refreshUnder, intended], ?_⟩
          simp [refreshUnder, intended, prepare, created, Except.toOption]
  · rintro ⟨reply, rfl, rfl⟩
    have ends : maintainer.CanEnd force store trackedClass.name _ _ := .regular
    rw [refresh_name] at ends
    cases reply with
    | granted => exact ends
    | refused made =>
        rw [refreshUnder.eq_def]
        dsimp only
        split
        · rename_i methods intended
          rw [← refresh_name] at intended
          refine .refused intended ?_
          cases made with
          | false => exact Or.inl rfl
          | true => exact prepare_made store
        · exact ends

/-- The entry of a class that is in the store because its page was among the requests: the one
that the page gives, if the file can be written and the system does not refuse that. -/
def entrySaved? (maintainer : Maintainer) (replies : TrackedClass → WriteReply)
    (before : CacheStore) (requests : List Request) (trackedClass : TrackedClass) :
    Option CacheEntry :=
  if Request.fetch trackedClass.page ∈ requests ∧ before.accepts trackedClass.name ∧
      replies trackedClass = .granted then
    maintainer.entryFetched? trackedClass
  else none

theorem accepts_of_entrySaved? {entry : CacheEntry}
    (saved : maintainer.entrySaved? replies before requests trackedClass = some entry) :
    before.accepts trackedClass.name = true := by
  rw [entrySaved?] at saved
  split_ifs at saved with asked
  exact asked.2.1

/-- A store after requests differs from the one before by the entries saved for the requests. -/
structure Saves (maintainer : Maintainer) (replies : TrackedClass → WriteReply)
    (before after : CacheStore) (requests : List Request) : Prop where
  /-- The directory can be had or not as before. -/
  blocked_eq : after.directory.isBlocked = before.directory.isBlocked
  /-- The files of the saved entries hold them, and the others are unchanged. -/
  node_eq : ∀ trackedClass : TrackedClass, after.node? trackedClass.name =
    match maintainer.entrySaved? replies before requests trackedClass with
    | none => before.node? trackedClass.name
    | some entry => some (.file entry.fileText.toUTF8)
  /-- New names are those of files of tracked classes. -/
  named : ∀ name ∈ after.directory.names, name ∈ before.directory.names ∨
    ∃ trackedClass : TrackedClass, name = CacheDirectory.fileName trackedClass.name

namespace Saves

/-- A file that could be written still can, as what is written is a file. -/
theorem accepts_eq (saves : maintainer.Saves replies before after requests)
    (trackedClass : TrackedClass) :
    after.accepts trackedClass.name = before.accepts trackedClass.name := by
  have nodeEq := saves.node_eq trackedClass
  cases saved : maintainer.entrySaved? replies before requests trackedClass with
  | none =>
      rw [saved] at nodeEq
      exact CacheStore.AgreeOn.accepts_eq ⟨saves.blocked_eq, nodeEq⟩
  | some entry =>
      rw [saved] at nodeEq
      have accepted := accepts_of_entrySaved? saved
      rw [accepted, CacheStore.accepts_of_isFile accepted saves.blocked_eq nodeEq]

/-- Requests that save nothing leave all files as they are, and at most make the directory. -/
theorem of_made (made : after = store ∨ after = prepare store)
    (nothing : ∀ trackedClass,
      maintainer.entrySaved? replies store requests trackedClass = none) :
    maintainer.Saves replies store after requests := by
  rcases made with rfl | rfl
  · exact ⟨rfl, fun trackedClass => by rw [nothing], fun _ known => Or.inl known⟩
  · refine ⟨(prepare_agreeOn store "").blocked_eq, fun trackedClass => ?_, fun name known => ?_⟩
    · rw [nothing, (prepare_agreeOn store trackedClass.name).node_eq]
    · exact Or.inl (names_prepare store ▸ known)

theorem of_made_unasked (made : after = store ∨ after = prepare store) :
    maintainer.Saves replies store after [] :=
  of_made made fun _ => if_neg fun asked => List.not_mem_nil asked.1

/-- One after the other, requests of one maintainer save what they save together. -/
theorem trans (first : maintainer.Saves replies before between earlier)
    (second : maintainer.Saves replies between after later) :
    maintainer.Saves replies before after (earlier ++ later) where
  blocked_eq := second.blocked_eq.trans first.blocked_eq
  node_eq trackedClass := by
    rw [second.node_eq, entrySaved?, first.accepts_eq, first.node_eq, entrySaved?, entrySaved?]
    by_cases inEarlier : Request.fetch trackedClass.page ∈ earlier <;>
      by_cases inLater : Request.fetch trackedClass.page ∈ later <;>
        by_cases granted : before.accepts trackedClass.name ∧ replies trackedClass = .granted <;>
          cases maintainer.entryFetched? trackedClass <;> simp [inEarlier, inLater, granted]
  named name known := by
    rcases second.named name known with inBetween | tracked
    · exact first.named name inBetween
    · exact Or.inr tracked

end Saves

theorem saves_refreshTracked (granted : replies trackedClass = .granted) :
    maintainer.Saves replies store (maintainer.refreshTracked force store trackedClass).store
      (maintainer.refreshTracked force store trackedClass).requests where
  blocked_eq := isBlocked_refreshTracked maintainer force store trackedClass
  node_eq other := by
    rw [node?_refreshTracked, entrySaved?]
    simp only [fetch_mem_requests_refreshTracked, saved?]
    by_cases same : other = trackedClass
    · subst same
      cases maintainer.kept? force store other <;> cases store.accepts other.name <;>
        cases maintainer.entryFetched? other <;> simp [granted]
    · have namesDiffer : other.name ≠ trackedClass.name := fun equal =>
        same (TrackedClass.name_injective equal)
      simp only [same, false_and, if_false, namesDiffer]
      split <;> rfl
  named name known := (mem_names_refreshTracked known).imp_right fun named =>
    ⟨trackedClass, named⟩

theorem saves_refreshUnder (maintainer : Maintainer) (force : Bool)
    (replies : TrackedClass → WriteReply) (store : CacheStore) (trackedClass : TrackedClass) :
    maintainer.Saves replies store
      (maintainer.refreshUnder force (replies trackedClass) store trackedClass).store
      (maintainer.refreshUnder force (replies trackedClass) store trackedClass).requests := by
  rw [requests_refreshUnder]
  cases reply : replies trackedClass with
  | granted => exact saves_refreshTracked reply
  | refused made =>
      refine .of_made (store_refreshUnder_refused made) fun other => if_neg ?_
      rintro ⟨asked, -, granted⟩
      obtain ⟨rfl, -⟩ := fetch_mem_requests_refreshTracked.mp asked
      rw [reply] at granted
      cases granted

theorem saves_refreshAllUnder (maintainer : Maintainer) (force stops : Bool)
    (replies : TrackedClass → WriteReply) (classes : List TrackedClass) (store : CacheStore) :
    maintainer.Saves replies store
      (maintainer.refreshAllUnder force stops replies classes store).store
      (maintainer.refreshAllUnder force stops replies classes store).requests := by
  induction classes generalizing store with
  | nil => exact .of_made_unasked (Or.inl rfl)
  | cons first rest ih =>
      have step := saves_refreshUnder maintainer force replies store first
      rw [refreshAllUnder]
      dsimp only
      split_ifs
      · exact step
      · exact step.trans (ih _)

theorem saves_updateAll (maintainer : Maintainer) (force : Bool) (store : CacheStore) :
    maintainer.Saves (fun _ => .granted) store (maintainer.updateAll force store).store
      (maintainer.updateAll force store).requests := by
  have prepared : maintainer.Saves (fun _ => .granted) store (prepare store) [] :=
    .of_made_unasked (Or.inr rfl)
  have refreshed := saves_refreshAllUnder maintainer force true (fun _ => .granted)
    TrackedClass.all (prepare store)
  rw [refreshAllUnder_granted_stops fun _ => rfl] at refreshed
  exact prepared.trans refreshed

end Maintainer

end ScriptLint
