import ScriptLint.Proofs.Lint.CheckOrder
import ScriptLint.Proofs.Lint.StandingRules

/-!
# The tables that a check consults

A check looks up the classes whose calls are in the script, and no others.  What it keeps of them is
what the store has, so a table that is loaded already stays, and the findings are the same over any
store and catalog that answer alike for these classes.
-/

namespace ScriptLint

/-- Whether one of the calls is a call of the class. -/
def TrackedClass.IsCalledIn (trackedClass : TrackedClass) (sites : List CallSite) : Prop :=
  ∃ site ∈ sites, site.className = trackedClass.name

section Calls

variable {trackedClass : TrackedClass} {site : CallSite} {sites : List CallSite}

theorem TrackedClass.isCalledIn_cons :
    trackedClass.IsCalledIn (site :: sites) ↔
      site.className = trackedClass.name ∨ trackedClass.IsCalledIn sites := by
  simp [IsCalledIn]

variable {engine : Engine} {store otherStore : CacheStore} {catalog other : Catalog}

theorem Catalog.isLoaded_iff {className : String} :
    catalog.isLoaded className ↔ ∃ trackedClass table,
      trackedClass.name = className ∧ catalog.loaded trackedClass = some table := by
  simp only [isLoaded, Option.isSome_iff_exists, Option.bind_eq_some_iff,
    TrackedClass.ofName?_eq_some_iff]
  constructor
  · rintro ⟨table, trackedClass, named, loaded⟩
    exact ⟨trackedClass, table, named, loaded⟩
  · rintro ⟨trackedClass, table, named, loaded⟩
    exact ⟨table, trackedClass, named, loaded⟩

open Classical in
/-- After a check the classes that were called have the tables that they had, or else those in the
store, and all others are as before. -/
theorem Engine.loaded_checkCalls :
    (engine.checkCalls store sites catalog).2.loaded trackedClass =
      if trackedClass.IsCalledIn sites then catalog.tableOf? store trackedClass
      else catalog.loaded trackedClass := by
  induction sites generalizing catalog with
  | nil => simp [checkCalls, TrackedClass.IsCalledIn]
  | cons site rest ih =>
      rw [checkCalls]
      cases tracked : TrackedClass.ofName? site.className with
      | none =>
          have notCalled : site.className ≠ trackedClass.name := by
            intro called
            simp [called] at tracked
          simp only [ih, TrackedClass.isCalledIn_cons, notCalled, false_or]
      | some first =>
          have named := TrackedClass.ofName?_eq_some_iff.mp tracked
          dsimp only
          rw [ih, Catalog.tableOf?_lookUp, Catalog.loaded_lookUp]
          simp only [TrackedClass.isCalledIn_cons, ← named]
          by_cases same : trackedClass = first
          · subst same
            simp
          · have apart : first.name ≠ trackedClass.name :=
              fun sameName => same (TrackedClass.name_injective sameName).symm
            simp [same, apart]

theorem Engine.checkCalls_fst_congr
    (alike : ∀ trackedClass : TrackedClass, trackedClass.IsCalledIn sites →
      other.tableOf? otherStore trackedClass = catalog.tableOf? store trackedClass) :
    (engine.checkCalls otherStore sites other).1 = (engine.checkCalls store sites catalog).1 := by
  rw [checkCalls_fst, checkCalls_fst]
  apply List.flatMap_congr
  intro site member
  cases tracked : TrackedClass.ofName? site.className with
  | none => rfl
  | some trackedClass =>
      have named := TrackedClass.ofName?_eq_some_iff.mp tracked
      simp only [alike trackedClass ⟨site, member, named.symm⟩]

end Calls

namespace Check

theorem files_outcome (options : Options) (colour : Bool) (files : FileTree)
    (requests : List Request) (before : List String) (checked : Checked) :
    (outcome options colour files requests before checked).files = files := by
  unfold outcome
  dsimp only
  split
  · rfl
  · split
    · rfl
    · split <;> rfl

/-- A check that is not to update the cache leaves all files as they are. -/
theorem files_run (environment : Environment) (colour : Bool)
    (loadProject : Surroundings → Except SettingsError Project) (options : Options) :
    (run environment colour loadProject { options with update := false }).files =
      environment.surroundings.files := by
  rw [run]
  cases loadProject environment.surroundings with
  | error failure => rfl
  | ok project => exact files_outcome ..

end Check

/-- A check loads the tables of the tracked classes that are called in the script and have a usable
entry in the store, as far as they are not loaded yet, and keeps all that is loaded as it is.  No
other class is loaded, and no file is written.  What is found depends on the called classes alone:
over any other store and catalog that have the same tables for them the findings are the same. -/
theorem check_consults_called_classes (engine : Engine) (store : CacheStore) (source : String)
    (catalog : Catalog) :
    let checked := engine.checkSource store source catalog
    let isCalled := fun trackedClass : TrackedClass => trackedClass.IsCalledIn (scanCalls source)
    (∀ className, checked.2.isLoaded className ↔ catalog.isLoaded className ∨
        ∃ trackedClass : TrackedClass, trackedClass.name = className ∧ isCalled trackedClass ∧
          (store.readMethods? className).isSome) ∧
      (∀ trackedClass table, checked.2.loaded trackedClass = some table ↔
        catalog.loaded trackedClass = some table ∨
          catalog.loaded trackedClass = none ∧ isCalled trackedClass ∧
            store.readMethods? trackedClass.name = some table) ∧
      (∀ (otherStore : CacheStore) (other : Catalog),
        (∀ trackedClass, isCalled trackedClass →
          (other.get otherStore trackedClass.name).1 = (catalog.get store trackedClass.name).1) →
        (engine.checkSource otherStore source other).1 = checked.1) ∧
      ∀ (environment : Environment) (colour : Bool)
        (loadProject : Surroundings → Except SettingsError Project) (options : Check.Options),
        (Check.run environment colour loadProject { options with update := false }).files =
          environment.surroundings.files := by
  intro checked isCalled
  have loadedIff : ∀ trackedClass table, checked.2.loaded trackedClass = some table ↔
      catalog.loaded trackedClass = some table ∨
        catalog.loaded trackedClass = none ∧ isCalled trackedClass ∧
          store.readMethods? trackedClass.name = some table := by
    intro trackedClass table
    simp only [checked, isCalled, Engine.checkSource, Engine.loaded_checkCalls, Catalog.tableOf?]
    split_ifs with called
    · simp [called, Option.or_eq_some_iff]
    · simp [called]
  refine ⟨?_, loadedIff, ?_, Check.files_run⟩
  · intro className
    rw [Catalog.isLoaded_iff, Catalog.isLoaded_iff]
    constructor
    · rintro ⟨trackedClass, table, rfl, loaded⟩
      rcases (loadedIff trackedClass table).mp loaded with before | ⟨-, called, stored⟩
      · exact .inl ⟨trackedClass, table, rfl, before⟩
      · exact .inr ⟨trackedClass, rfl, called, Option.isSome_of_eq_some stored⟩
    · rintro (⟨trackedClass, table, rfl, before⟩ | ⟨trackedClass, rfl, called, usable⟩)
      · exact ⟨trackedClass, table, rfl, (loadedIff trackedClass table).mpr (.inl before)⟩
      · cases kept : catalog.loaded trackedClass with
        | some table =>
            exact ⟨trackedClass, table, rfl, (loadedIff trackedClass table).mpr (.inl kept)⟩
        | none =>
            obtain ⟨table, stored⟩ := Option.isSome_iff_exists.mp usable
            exact ⟨trackedClass, table, rfl,
              (loadedIff trackedClass table).mpr (.inr ⟨kept, called, stored⟩)⟩
  · intro otherStore other alike
    apply Engine.checkCalls_fst_congr
    intro trackedClass called
    rw [← Catalog.tableNamed_name, ← Catalog.tableNamed_name]
    exact alike trackedClass called

end ScriptLint
