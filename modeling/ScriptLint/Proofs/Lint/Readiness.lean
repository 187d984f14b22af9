import ScriptLint.Proofs.Lint.CatalogUses

/-!
# Readiness

A warm-up looks every tracked class up, so afterwards a class is loaded unless it was not loaded
before and its file gives no table.  The readiness that is reported tells exactly which classes are
not loaded.  A catalog never loses a table, so no later warm-up misses a class that an earlier one
had, whatever the catalog is used for in between and however the files change.
-/

namespace ScriptLint

namespace Readiness

/-- The classes that are reported to have no usable table. -/
def missing : Readiness → List TrackedClass
  | ready => []
  | partly missing => missing
  | empty => TrackedClass.all

end Readiness

namespace Catalog

variable {catalog : Catalog} {store : CacheStore} {classes : List TrackedClass}
variable {trackedClass : TrackedClass} {table : MethodTable} {className : String}

theorem isLoaded_name :
    catalog.isLoaded trackedClass.name = (catalog.loaded trackedClass).isSome := by
  rw [isLoaded, TrackedClass.ofName?_name, Option.bind_some]

theorem missingAmong_fst :
    (missingAmong store classes catalog).1 =
      classes.filter fun trackedClass => (catalog.tableOf? store trackedClass).isNone := by
  induction classes generalizing catalog with
  | nil => rfl
  | cons first rest ih =>
      simp only [missingAmong, ih, lookUp_fst, tableOf?_lookUp, List.filter_cons]
      cases catalog.tableOf? store first <;> simp

theorem loaded_missingAmong :
    (missingAmong store classes catalog).2.loaded trackedClass =
      if trackedClass ∈ classes then catalog.tableOf? store trackedClass
      else catalog.loaded trackedClass := by
  induction classes generalizing catalog with
  | nil => simp [missingAmong]
  | cons first rest ih =>
      simp only [missingAmong, ih, tableOf?_lookUp, loaded_lookUp, List.mem_cons]
      by_cases same : trackedClass = first
      · subst same
        simp
      · simp [same]

theorem loaded_warm :
    (catalog.warm store).2.loaded trackedClass = catalog.tableOf? store trackedClass := by
  simp [warm, loaded_missingAmong, trackedClass.mem_all]

/-- A warm-up reports the classes that are not loaded afterwards. -/
theorem warm_fst :
    (catalog.warm store).1 = readinessOf (TrackedClass.all.filter fun trackedClass =>
      !(catalog.warm store).2.isLoaded trackedClass.name) := by
  simp only [isLoaded_name, loaded_warm, Option.not_isSome]
  rw [warm, ← missingAmong_fst]

theorem missing_readinessOf (sublist : classes.Sublist TrackedClass.all) :
    (readinessOf classes).missing = classes := by
  rw [readinessOf]
  split_ifs with none all
  · rw [List.isEmpty_iff] at none
    rw [none, Readiness.missing]
  · rw [Readiness.missing, sublist.eq_of_length all]
  · rw [Readiness.missing]

/-- The three cases of readiness, by the classes that are missing. -/
theorem readinessOf_cases (classes : List TrackedClass)
    (sublist : classes.Sublist TrackedClass.all) :
    (readinessOf classes = .ready ↔ classes = []) ∧
      (readinessOf classes = .empty ↔ classes = TrackedClass.all) ∧
      ∀ listed, readinessOf classes = .partly listed ↔
        classes ≠ TrackedClass.all ∧ classes ≠ [] ∧ listed = classes := by
  rw [readinessOf]
  split_ifs with none all
  · rw [List.isEmpty_iff] at none
    simp [none, TrackedClass.all]
  · obtain rfl := sublist.eq_of_length all
    simp [TrackedClass.all]
  · have notAll : classes ≠ TrackedClass.all := fun same => all (congrArg List.length same)
    rw [List.isEmpty_iff] at none
    simp [none, notAll, eq_comm]

theorem missing_warm :
    (catalog.warm store).1.missing = TrackedClass.all.filter fun trackedClass =>
      !(catalog.warm store).2.isLoaded trackedClass.name := by
  rw [warm_fst, missing_readinessOf List.filter_sublist]

theorem mem_missing_warm :
    trackedClass ∈ (catalog.warm store).1.missing ↔
      (catalog.warm store).2.loaded trackedClass = none := by
  rw [missing_warm, List.mem_filter, isLoaded_name]
  simp [trackedClass.mem_all]

theorem mem_missing_warm_iff :
    trackedClass ∈ (catalog.warm store).1.missing ↔
      catalog.loaded trackedClass = none ∧ store.readMethods? trackedClass.name = none := by
  rw [mem_missing_warm, loaded_warm, tableOf?, Option.or_eq_none_iff]

theorem loaded_get (kept : catalog.loaded trackedClass = some table) :
    (catalog.get store className).2.loaded trackedClass = some table := by
  rw [get]
  split
  · rename_i other
    rw [loaded_lookUp, tableOf?]
    split_ifs with same
    · rw [← same, kept, Option.some_or]
    · exact kept
  · exact kept

end Catalog

section Uses

variable {catalog : Catalog} {store : CacheStore} {trackedClass : TrackedClass}
variable {table : MethodTable}

/-- Look-ups lose no table. -/
theorem LookUps.loaded_run {α : Type} {lookUps : LookUps α}
    (kept : catalog.loaded trackedClass = some table) :
    (lookUps.run store catalog).2.loaded trackedClass = some table := by
  induction lookUps generalizing catalog with
  | done result => exact kept
  | ask className proceed ih => exact ih _ (Catalog.loaded_get kept)

namespace CatalogUse

theorem loaded_result {use : CatalogUse} (kept : catalog.loaded trackedClass = some table) :
    (use.result store catalog).2.loaded trackedClass = some table := by
  rw [← run_lookUps]
  exact LookUps.loaded_run kept

/-- A catalog after uses, each of them over the files as they are then. -/
def afterAll (catalog : Catalog) (uses : List (CatalogUse × CacheStore)) : Catalog :=
  uses.foldl (fun catalog use => (use.1.result use.2 catalog).2) catalog

theorem loaded_afterAll {uses : List (CatalogUse × CacheStore)}
    (kept : catalog.loaded trackedClass = some table) :
    (afterAll catalog uses).loaded trackedClass = some table := by
  induction uses generalizing catalog with
  | nil => exact kept
  | cons use rest ih => exact ih (loaded_result kept)

end CatalogUse

end Uses

open CatalogUse in
/-- The readiness that a warm-up reports is that of the catalog afterwards: all tracked classes are
loaded, or none is, or those that are not loaded are listed, in their order and each once.  A class
is missing just when it was not loaded before and its file gives no table.  Any later warm-up of the
catalog misses only classes that were missing before, whatever the catalog was used for in between
and whatever the files hold at each of these uses and at the end. -/
theorem readiness_is_exact_and_improves (catalog : Catalog) (store : CacheStore) :
    let readiness := (catalog.warm store).1
    let warmed := (catalog.warm store).2
    let isLoaded := fun trackedClass : TrackedClass => warmed.isLoaded trackedClass.name
    (readiness = .ready ↔ ∀ trackedClass, isLoaded trackedClass) ∧
      (readiness = .empty ↔ ∀ trackedClass, ¬isLoaded trackedClass) ∧
      (∀ missing, readiness = .partly missing ↔
        (∃ trackedClass, isLoaded trackedClass) ∧ (∃ trackedClass, ¬isLoaded trackedClass) ∧
          missing = TrackedClass.all.filter fun trackedClass => !isLoaded trackedClass) ∧
      readiness.missing.Sublist TrackedClass.all ∧ readiness.missing.Nodup ∧
      (∀ trackedClass, trackedClass ∈ readiness.missing ↔
        ¬catalog.isLoaded trackedClass.name ∧ store.readMethods? trackedClass.name = none) ∧
      ∀ (uses : List (CatalogUse × CacheStore)) (later : CacheStore),
        ((afterAll warmed uses).warm later).1.missing ⊆ readiness.missing := by
  intro readiness warmed isLoaded
  have reported : readiness =
      Catalog.readinessOf (TrackedClass.all.filter fun trackedClass => !isLoaded trackedClass) :=
    Catalog.warm_fst
  have listed : readiness.missing = _ := Catalog.missing_warm
  have sublist : readiness.missing.Sublist TrackedClass.all := listed ▸ List.filter_sublist
  obtain ⟨ready, empty, partly⟩ := Catalog.readinessOf_cases
    (TrackedClass.all.filter fun trackedClass => !isLoaded trackedClass) List.filter_sublist
  have allLoaded : (TrackedClass.all.filter fun trackedClass => !isLoaded trackedClass) = [] ↔
      ∀ trackedClass, isLoaded trackedClass := by
    simp [List.filter_eq_nil_iff, TrackedClass.mem_all]
  have noneLoaded : (TrackedClass.all.filter fun trackedClass => !isLoaded trackedClass) =
      TrackedClass.all ↔ ∀ trackedClass, ¬isLoaded trackedClass := by
    simp [List.filter_eq_self, TrackedClass.mem_all]
  rw [← reported] at ready empty partly
  refine ⟨ready.trans allLoaded, empty.trans noneLoaded, ?_, sublist,
    TrackedClass.nodup_all.sublist sublist, ?_, ?_⟩
  · intro missing
    rw [partly, Ne, noneLoaded, Ne, allLoaded]
    simp
  · intro trackedClass
    rw [Catalog.mem_missing_warm_iff, Catalog.isLoaded_name]
    simp
  · intro uses later trackedClass missing
    rw [Catalog.mem_missing_warm_iff] at missing
    refine Catalog.mem_missing_warm.mpr (Option.eq_none_iff_forall_ne_some.mpr ?_)
    intro table kept
    rw [loaded_afterAll kept] at missing
    cases missing.1

end ScriptLint
