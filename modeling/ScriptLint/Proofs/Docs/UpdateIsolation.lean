import Mathlib.Data.List.Nodup
import Mathlib.Data.List.TakeWhile
import ScriptLint.Proofs.Docs.RefreshFrame

/-!
# Updates and single refreshes

An update refreshes the tracked classes one after the other.  Because a refresh cannot be told by
other classes, every class fares in an update as if it were refreshed alone, as long as its turn
comes.  An update that stops at failures stops at the first class whose refresh alone fails, and
leaves that class and all later ones untouched.
-/

namespace ScriptLint

namespace Maintainer

variable {maintainer : Maintainer} {force : Bool} {initial store : CacheStore}
variable {trackedClass : TrackedClass} {classes : List TrackedClass} {otherName : String}

/-- A refresh that fails leaves the store as it is. -/
theorem store_of_refreshTracked_error {failure : DocsError}
    (failed : (maintainer.refreshTracked force store trackedClass).result = .error failure) :
    (maintainer.refreshTracked force store trackedClass).store = store := by
  rw [refreshTracked_eq] at failed ⊢
  cases kept : maintainer.kept? force store trackedClass with
  | some methods => rfl
  | none =>
      rw [kept] at failed
      dsimp only at failed ⊢
      rw [fetch] at failed ⊢
      split at failed
      · rfl
      · dsimp only at failed
        split_ifs at failed

/-- A class that is not refreshed cannot tell that others are. -/
theorem refreshEach_agreeOn_of_not_mem
    (absent : ∀ other ∈ classes, otherName ≠ other.name) :
    (maintainer.refreshEach force classes store).store.AgreeOn store otherName := by
  induction classes generalizing store with
  | nil => exact CacheStore.AgreeOn.refl store otherName
  | cons first rest ih =>
      rw [refreshEach]
      exact (ih fun other member => absent other (List.mem_cons_of_mem first member)).trans
        (refreshTracked_agreeOn_of_ne maintainer force (absent first List.mem_cons_self))

/-- The store after the first of several classes still agrees with the initial one on the others. -/
theorem agreeOn_after_first (maintainer : Maintainer) (force : Bool) {first : TrackedClass}
    {rest : List TrackedClass}
    (distinct : (first :: rest).Nodup)
    (agree : ∀ other ∈ first :: rest, store.AgreeOn initial other.name) :
    ∀ other ∈ rest,
      (maintainer.refreshTracked force store first).store.AgreeOn initial other.name := by
  intro other member
  have different : other.name ≠ first.name := fun same =>
    (List.nodup_cons.mp distinct).1 (TrackedClass.name_injective same ▸ member)
  exact (refreshTracked_agreeOn_of_ne maintainer force different).trans
    (agree other (List.mem_cons_of_mem first member))

theorem result_refreshEach (distinct : classes.Nodup)
    (agree : ∀ other ∈ classes, store.AgreeOn initial other.name) :
    (maintainer.refreshEach force classes store).result =
      classes.map fun other => (other, (maintainer.refreshTracked force initial other).result) := by
  induction classes generalizing store with
  | nil => rfl
  | cons first rest ih =>
      have later := ih (List.nodup_cons.mp distinct).2
        (agreeOn_after_first maintainer force distinct agree)
      rw [refreshEach, List.map_cons]
      dsimp only
      rw [later, (refreshTracked_result_eq maintainer force (agree first List.mem_cons_self)).1]

theorem requests_refreshEach (distinct : classes.Nodup)
    (agree : ∀ other ∈ classes, store.AgreeOn initial other.name) :
    (maintainer.refreshEach force classes store).requests =
      classes.flatMap fun other => (maintainer.refreshTracked force initial other).requests := by
  induction classes generalizing store with
  | nil => rfl
  | cons first rest ih =>
      have later := ih (List.nodup_cons.mp distinct).2
        (agreeOn_after_first maintainer force distinct agree)
      rw [refreshEach, List.flatMap_cons]
      dsimp only
      rw [later, (refreshTracked_result_eq maintainer force (agree first List.mem_cons_self)).2]

theorem refreshEach_agreeOn (distinct : classes.Nodup)
    (agree : ∀ other ∈ classes, store.AgreeOn initial other.name)
    (member : trackedClass ∈ classes) :
    (maintainer.refreshEach force classes store).store.AgreeOn
      (maintainer.refreshTracked force initial trackedClass).store trackedClass.name := by
  induction classes generalizing store with
  | nil => cases member
  | cons first rest ih =>
      obtain ⟨notLater, distinctLater⟩ := List.nodup_cons.mp distinct
      rw [refreshEach]
      rcases List.mem_cons.mp member with rfl | inRest
      · have untouched : ∀ other ∈ rest, trackedClass.name ≠ other.name := by
          intro other otherMem same
          exact notLater (TrackedClass.name_injective same ▸ otherMem)
        exact (refreshEach_agreeOn_of_not_mem untouched).trans
          (refreshTracked_agreeOn (agree trackedClass List.mem_cons_self))
      · exact ih distinctLater (agreeOn_after_first maintainer force distinct agree) inRest

/-- Whether the refresh of a class alone gives no failure. -/
def succeeds (maintainer : Maintainer) (force : Bool) (store : CacheStore)
    (trackedClass : TrackedClass) : Bool :=
  (maintainer.refresh force store trackedClass.name).result.isOk

theorem exists_outcome_of_succeeds (succeeds : maintainer.succeeds force initial trackedClass)
    (agree : store.AgreeOn initial trackedClass.name) :
    ∃ outcome, (maintainer.refreshTracked force store trackedClass).result = .ok outcome := by
  rw [(refreshTracked_result_eq maintainer force agree).1]
  rw [Maintainer.succeeds, refresh_name] at succeeds
  cases alone : (maintainer.refreshTracked force initial trackedClass).result with
  | ok outcome => exact ⟨outcome, rfl⟩
  | error failure => simp [alone, Except.isOk, Except.toBool] at succeeds

theorem exists_failure_of_not_succeeds
    (fails : maintainer.succeeds force store trackedClass = false) :
    ∃ failure, (maintainer.refresh force store trackedClass.name).result = .error failure := by
  rw [Maintainer.succeeds] at fails
  cases alone : (maintainer.refresh force store trackedClass.name).result with
  | ok outcome => simp [alone, Except.isOk, Except.toBool] at fails
  | error failure => exact ⟨failure, rfl⟩

/-- Without failures it makes no difference whether an update stops at them. -/
theorem refreshUntilFailure_of_outcomes {outcomes : TrackedClass → RefreshOutcome}
    (distinct : classes.Nodup)
    (agree : ∀ other ∈ classes, store.AgreeOn initial other.name)
    (alone : ∀ other ∈ classes,
      (maintainer.refreshTracked force initial other).result = .ok (outcomes other)) :
    maintainer.refreshUntilFailure force classes store =
      ⟨.ok (classes.map fun other => (other, outcomes other)),
        (maintainer.refreshEach force classes store).store,
        (maintainer.refreshEach force classes store).requests⟩ := by
  induction classes generalizing store with
  | nil => rfl
  | cons first rest ih =>
      have here : (maintainer.refreshTracked force store first).result = .ok (outcomes first) :=
        (refreshTracked_result_eq maintainer force (agree first List.mem_cons_self)).1.trans
          (alone first List.mem_cons_self)
      have later := ih (List.nodup_cons.mp distinct).2
        (agreeOn_after_first maintainer force distinct agree)
        (fun other member => alone other (List.mem_cons_of_mem first member))
      rw [refreshUntilFailure, refreshEach]
      dsimp only
      rw [here]
      dsimp only
      rw [later]
      rfl

theorem refreshUntilFailure_of_succeeds (distinct : classes.Nodup)
    (agree : ∀ other ∈ classes, store.AgreeOn initial other.name)
    (succeed : ∀ other ∈ classes, maintainer.succeeds force initial other) :
    (maintainer.refreshUntilFailure force classes store).store =
        (maintainer.refreshEach force classes store).store ∧
      ∃ outcomes, (maintainer.refreshUntilFailure force classes store).result = .ok outcomes ∧
        (outcomes.map fun (other, outcome) => (other, Except.ok outcome)) =
          (maintainer.refreshEach force classes store).result := by
  have single : ∀ other ∈ classes, ∃ outcome,
      (maintainer.refreshTracked force initial other).result = .ok outcome := by
    intro other member
    exact exists_outcome_of_succeeds (succeed other member) (.refl initial other.name)
  have : Nonempty RefreshOutcome := ⟨.reused .empty⟩
  choose! outcomes alone using single
  rw [refreshUntilFailure_of_outcomes distinct agree alone]
  refine ⟨rfl, _, rfl, ?_⟩
  rw [result_refreshEach distinct agree, List.map_map]
  apply List.map_congr_left
  intro other member
  rw [alone other member]
  rfl

/-- At the first failure an update stops with it.  The classes before are refreshed, and pages of
later classes are not asked for. -/
theorem refreshUntilFailure_of_fails {before later : List TrackedClass} {failing : TrackedClass}
    {failure : DocsError} (distinct : (before ++ failing :: later).Nodup)
    (agree : ∀ other ∈ before ++ failing :: later, store.AgreeOn initial other.name)
    (succeed : ∀ other ∈ before, maintainer.succeeds force initial other)
    (failed : (maintainer.refreshTracked force initial failing).result = .error failure) :
    let run := maintainer.refreshUntilFailure force (before ++ failing :: later) store
    run.result = .error failure ∧
      run.store = (maintainer.refreshEach force before store).store ∧
      ∀ request ∈ run.requests, ∃ other, (other ∈ before ∨ other = failing) ∧
        (request = .head other.page ∨ request = .fetch other.page) := by
  induction before generalizing store with
  | nil =>
      rw [List.nil_append] at agree ⊢
      have here := (refreshTracked_result_eq maintainer force
        (agree failing List.mem_cons_self)).1.trans failed
      rw [refreshUntilFailure]
      dsimp only
      rw [here]
      exact ⟨rfl, store_of_refreshTracked_error here, fun request member =>
        ⟨failing, Or.inr rfl, mem_requests_refreshTracked member⟩⟩
  | cons first rest ih =>
      rw [List.cons_append] at distinct agree ⊢
      obtain ⟨outcome, alone⟩ := exists_outcome_of_succeeds
        (succeed first List.mem_cons_self) (agree first List.mem_cons_self)
      obtain ⟨resultEq, storeEq, asked⟩ := ih (List.nodup_cons.mp distinct).2
        (agreeOn_after_first maintainer force distinct agree)
        (fun other member => succeed other (List.mem_cons_of_mem first member))
      rw [refreshUntilFailure, refreshEach]
      dsimp only
      rw [alone]
      refine ⟨?_, storeEq, fun request member => ?_⟩
      · dsimp only
        rw [resultEq]
        rfl
      · rcases List.mem_append.mp member with own | others
        · exact ⟨first, Or.inl List.mem_cons_self, mem_requests_refreshTracked own⟩
        · obtain ⟨other, among, requestEq⟩ := asked request others
          exact ⟨other, among.imp_left (List.mem_cons_of_mem first), requestEq⟩

theorem prepared_agreeOn (store : CacheStore) (classes : List TrackedClass) :
    ∀ other ∈ classes, (prepare store).AgreeOn store other.name :=
  fun other _ => prepare_agreeOn store other.name

theorem node?_updateEach (maintainer : Maintainer) (force : Bool) (store : CacheStore)
    (trackedClass : TrackedClass) :
    (maintainer.updateEach force store).store.node? trackedClass.name =
      (maintainer.refreshTracked force store trackedClass).store.node? trackedClass.name :=
  (refreshEach_agreeOn TrackedClass.nodup_all (prepared_agreeOn store TrackedClass.all)
    trackedClass.mem_all).node_eq

/-- If every refresh alone gives an outcome, then an update of all tracked classes gives these
outcomes, makes the requests of each class in turn, and leaves every file as the refresh alone
does. -/
theorem updateAll_of_outcomes {outcomes : TrackedClass → RefreshOutcome}
    (alone : ∀ other : TrackedClass,
      (maintainer.refreshTracked force store other).result = .ok (outcomes other)) :
    let run := maintainer.updateAll force store
    run.result = .ok (TrackedClass.all.map fun other => (other, outcomes other)) ∧
      run.requests = TrackedClass.all.flatMap (fun other =>
        (maintainer.refreshTracked force store other).requests) ∧
      ∀ other : TrackedClass, run.store.AgreeOn
        (maintainer.refreshTracked force store other).store other.name := by
  have agree := prepared_agreeOn store TrackedClass.all
  rw [updateAll, refreshUntilFailure_of_outcomes TrackedClass.nodup_all agree
    (fun other _ => alone other)]
  refine ⟨rfl, requests_refreshEach TrackedClass.nodup_all agree, ?_⟩
  intro other
  exact refreshEach_agreeOn TrackedClass.nodup_all agree other.mem_all

section FirstFailure

variable {before later : List TrackedClass} {failing : TrackedClass} {failure : DocsError}
variable (divided : TrackedClass.all = before ++ failing :: later)
variable (succeed : ∀ other ∈ before, maintainer.succeeds force store other)
variable (failed : (maintainer.refreshTracked force store failing).result = .error failure)

include divided succeed failed

/-- An update of all tracked classes that stops does so at the first class whose refresh alone
fails. -/
theorem updateAll_of_fails :
    let run := maintainer.updateAll force store
    run.result = .error failure ∧
      run.store = (maintainer.refreshEach force before (prepare store)).store ∧
      ∀ request ∈ run.requests, ∃ other, (other ∈ before ∨ other = failing) ∧
        (request = .head other.page ∨ request = .fetch other.page) := by
  have distinct := TrackedClass.nodup_all
  rw [updateAll]
  rw [divided] at distinct ⊢
  exact refreshUntilFailure_of_fails distinct (prepared_agreeOn store _) succeed failed

theorem node?_updateAll_before (member : trackedClass ∈ before) :
    (maintainer.updateAll force store).store.node? trackedClass.name =
      (maintainer.updateEach force store).store.node? trackedClass.name := by
  have distinct := TrackedClass.nodup_all
  rw [divided] at distinct
  rw [(updateAll_of_fails divided succeed failed).2.1, node?_updateEach]
  exact (refreshEach_agreeOn (List.nodup_append.mp distinct).1 (prepared_agreeOn store before)
    member).node_eq

theorem node?_updateAll_from_failure (member : trackedClass ∈ failing :: later) :
    (maintainer.updateAll force store).store.node? trackedClass.name =
      store.node? trackedClass.name := by
  have distinct := TrackedClass.nodup_all
  rw [divided] at distinct
  have untouched : ∀ first ∈ before, trackedClass.name ≠ first.name := by
    intro first inBefore same
    exact (List.nodup_append.mp distinct).2.2 first inBefore trackedClass member
      (TrackedClass.name_injective same.symm)
  rw [(updateAll_of_fails divided succeed failed).2.1]
  exact ((refreshEach_agreeOn_of_not_mem untouched).trans
    (prepare_agreeOn store trackedClass.name)).node_eq

/-- No page of a class behind the first failure is asked for, because no two classes share a
page. -/
theorem not_mem_requests_updateAll (member : trackedClass ∈ later) {request : Request}
    (ofPage : request = .head trackedClass.page ∨ request = .fetch trackedClass.page) :
    request ∉ (maintainer.updateAll force store).requests := by
  have distinct := TrackedClass.nodup_all
  rw [divided] at distinct
  obtain ⟨-, distinctLater, disjoint⟩ := List.nodup_append.mp distinct
  intro requested
  obtain ⟨other, among, requestEq⟩ :=
    (updateAll_of_fails divided succeed failed).2.2 request requested
  have samePage : other.page = trackedClass.page := by
    rcases ofPage with rfl | rfl
    · simp only [Request.head.injEq, reduceCtorEq, or_false] at requestEq
      exact requestEq.symm
    · simp only [Request.fetch.injEq, reduceCtorEq, false_or] at requestEq
      exact requestEq.symm
  obtain rfl := TrackedClass.page_injective samePage
  rcases among with inBefore | rfl
  · exact disjoint other inBefore other (List.mem_cons_of_mem failing member) rfl
  · exact (List.nodup_cons.mp distinctLater).1 member

end FirstFailure

/-- In an update each class fares as in a refresh alone.  An update that goes on gives all these
results and leaves all these files.  An update that stops gives the same list if no refresh alone
fails.  Otherwise it gives the failure of the first class whose refresh alone fails; the classes
before it are refreshed, it and all later ones keep their files, and no page of a later class is
asked for.  In whatever order classes are refreshed one after the other, each gives the result,
makes the requests and leaves the file of its refresh alone, and the other files stay. -/
theorem updates_agree_with_single_refreshes (maintainer : Maintainer) (force : Bool)
    (store : CacheStore) :
    let alone := fun trackedClass : TrackedClass =>
      maintainer.refresh force store trackedClass.name
    let succeeds := fun trackedClass : TrackedClass => (alone trackedClass).result.isOk
    let each := maintainer.updateEach force store
    let stopping := maintainer.updateAll force store
    each.result = TrackedClass.all.map (fun other => (other, (alone other).result)) ∧
      (∀ other : TrackedClass,
        each.store.node? other.name = (alone other).store.node? other.name) ∧
      (match TrackedClass.all.dropWhile succeeds with
        | [] =>
          (∃ outcomes, stopping.result = .ok outcomes ∧
              (outcomes.map fun (other, outcome) => (other, Except.ok outcome)) = each.result) ∧
            ∀ other : TrackedClass, stopping.store.node? other.name = each.store.node? other.name
        | failing :: later =>
          (∃ failure, (alone failing).result = .error failure ∧
              stopping.result = .error failure) ∧
            (∀ other ∈ TrackedClass.all.takeWhile succeeds,
              stopping.store.node? other.name = each.store.node? other.name) ∧
            (∀ other ∈ failing :: later,
              stopping.store.node? other.name = store.node? other.name) ∧
            ∀ other ∈ later, Request.head other.page ∉ stopping.requests ∧
              Request.fetch other.page ∉ stopping.requests) ∧
      ∀ order : List TrackedClass, order.Nodup →
        let inOrder := maintainer.refreshEach force order store
        inOrder.result = order.map (fun other => (other, (alone other).result)) ∧
          inOrder.requests = order.flatMap (fun other => (alone other).requests) ∧
          (∀ other ∈ order,
            inOrder.store.node? other.name = (alone other).store.node? other.name) ∧
          ∀ other ∉ order, inOrder.store.node? other.name = store.node? other.name := by
  intro alone succeeds each stopping
  have aloneEq : ∀ other : TrackedClass,
      alone other = maintainer.refreshTracked force store other :=
    refresh_name maintainer force store
  refine ⟨?_, fun other => ?_, ?_, fun order distinct => ⟨?_, ?_, ?_, ?_⟩⟩
  · simp only [aloneEq]
    exact result_refreshEach TrackedClass.nodup_all (prepared_agreeOn store _)
  · rw [aloneEq]
    exact node?_updateEach maintainer force store other
  · split
    next noneFails =>
      have succeed : ∀ other ∈ TrackedClass.all, maintainer.succeeds force store other :=
        List.dropWhile_eq_nil_iff.mp noneFails
      obtain ⟨storeEq, outcomes⟩ := refreshUntilFailure_of_succeeds TrackedClass.nodup_all
        (prepared_agreeOn store _) succeed
      exact ⟨outcomes, fun other => congrArg (·.node? other.name) storeEq⟩
    next failing later fails =>
      have divided : TrackedClass.all =
          TrackedClass.all.takeWhile succeeds ++ failing :: later := by
        rw [← fails, List.takeWhile_append_dropWhile]
      have succeed : ∀ other ∈ TrackedClass.all.takeWhile succeeds,
          maintainer.succeeds force store other := fun other => List.mem_takeWhile_imp
      have unsuccessful : succeeds failing = false := by
        have firstFails := List.head?_dropWhile_not succeeds TrackedClass.all
        rwa [fails] at firstFails
      obtain ⟨failure, failed⟩ := exists_failure_of_not_succeeds unsuccessful
      have failedTracked := (congrArg Maintained.result (aloneEq failing)).symm.trans failed
      refine ⟨⟨failure, failed, ?_⟩, fun other => ?_, fun other => ?_,
        fun other member => ⟨?_, ?_⟩⟩
      · exact (updateAll_of_fails divided succeed failedTracked).1
      · exact node?_updateAll_before divided succeed failedTracked
      · exact node?_updateAll_from_failure divided succeed failedTracked
      · exact not_mem_requests_updateAll divided succeed failedTracked member (Or.inl rfl)
      · exact not_mem_requests_updateAll divided succeed failedTracked member (Or.inr rfl)
  · simp only [aloneEq]
    exact result_refreshEach distinct fun other _ => .refl store other.name
  · simp only [aloneEq]
    exact requests_refreshEach distinct fun other _ => .refl store other.name
  · intro other member
    rw [aloneEq]
    exact (refreshEach_agreeOn distinct (fun other _ => .refl store other.name) member).node_eq
  · intro other absent
    have untouched : ∀ first ∈ order, other.name ≠ first.name := by
      intro first member same
      exact absent (TrackedClass.name_injective same ▸ member)
    exact (refreshEach_agreeOn_of_not_mem untouched).node_eq

end Maintainer

end ScriptLint
