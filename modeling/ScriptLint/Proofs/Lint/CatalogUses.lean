import ScriptLint.Lint.Engine
import ScriptLint.Proofs.Cache.SharedCatalog

/-!
# Uses of a catalog

Besides single look-ups there are two uses of a catalog: warming it up, and checking a script by
it.  Both make their look-ups one after the other, so they can be interleaved with each other step
by step.  A catalog that begins empty is written once for each class, whoever uses it.
-/

namespace ScriptLint

/-- The look-ups of a warm-up, with the classes that turn out to be missing. -/
def Catalog.missingLookUps : List TrackedClass → LookUps (List TrackedClass)
  | [] => .done []
  | trackedClass :: rest =>
    .ask trackedClass.name fun table =>
      (missingLookUps rest).map fun missing =>
        if table.isSome then missing else trackedClass :: missing

/-- The look-ups of a check of calls, with what the rules find. -/
def Engine.callLookUps (engine : Engine) : List CallSite → LookUps (List Diagnostic)
  | [] => .done []
  | site :: rest =>
    match TrackedClass.ofName? site.className with
    | none => callLookUps engine rest
    | some trackedClass =>
      .ask trackedClass.name fun methods =>
        (callLookUps engine rest).map (engine.judge site methods ++ ·)

theorem Catalog.run_missingLookUps (store : CacheStore) (classes : List TrackedClass)
    (catalog : Catalog) :
    (missingLookUps classes).run store catalog = missingAmong store classes catalog := by
  induction classes generalizing catalog with
  | nil => rfl
  | cons trackedClass rest ih =>
      simp [missingLookUps, missingAmong, LookUps.run, get, ih]

theorem Engine.run_callLookUps (engine : Engine) (store : CacheStore) (sites : List CallSite)
    (catalog : Catalog) :
    (engine.callLookUps sites).run store catalog = engine.checkCalls store sites catalog := by
  induction sites generalizing catalog with
  | nil => rfl
  | cons site rest ih =>
      rw [callLookUps, checkCalls]
      cases TrackedClass.ofName? site.className with
      | none => exact ih catalog
      | some trackedClass => simp [LookUps.run, Catalog.get, ih]

/-- What a catalog is used for. -/
inductive CatalogUse where
  | lookUp (className : String)
  | warmUp
  | check (engine : Engine) (source : String)

namespace CatalogUse

inductive Result where
  | table (methods : Option MethodTable)
  | readiness (readiness : Readiness)
  | findings (diagnostics : List Diagnostic)

/-- The result of a use that is made as a whole, and the catalog afterwards. -/
def result (store : CacheStore) (catalog : Catalog) : CatalogUse → Result × Catalog
  | lookUp className =>
    let (methods, later) := catalog.get store className
    (.table methods, later)
  | warmUp =>
    let (readiness, later) := catalog.warm store
    (.readiness readiness, later)
  | check engine source =>
    let (diagnostics, later) := engine.checkSource store source catalog
    (.findings diagnostics, later)

/-- The look-ups that a use is made of. -/
def lookUps : CatalogUse → LookUps Result
  | lookUp className => .ask className fun methods => .done (.table methods)
  | warmUp =>
    (Catalog.missingLookUps TrackedClass.all).map fun missing =>
      .readiness (Catalog.readinessOf missing)
  | check engine source => (engine.callLookUps (scanCalls source)).map .findings

theorem run_lookUps (use : CatalogUse) (store : CacheStore) (catalog : Catalog) :
    use.lookUps.run store catalog = use.result store catalog := by
  cases use with
  | lookUp className => rfl
  | warmUp => rw [lookUps, LookUps.run_map, Catalog.run_missingLookUps, result, Catalog.warm]
  | check engine source =>
      rw [lookUps, LookUps.run_map, Engine.run_callLookUps, result, Engine.checkSource]

end CatalogUse

/-- A catalog that begins empty is written once for each class, in whatever order single look-ups,
warm-ups and checks make their steps, and however the files change meanwhile.  The steps are those
of the uses themselves: a use that nobody interrupts ends as it does when it is made as a whole. -/
theorem catalog_is_write_once {ι : Type} [DecidableEq ι] (store : CacheStore)
    (uses : ι → CatalogUse) (moves : Nat → SharedCatalog.Move ι) :
    (CatalogHistory.mk .unloaded store (fun user => (uses user).lookUps) moves).IsWriteOnce ∧
      ∀ (use : CatalogUse) (store : CacheStore) (catalog : Catalog),
        ∃ count, Worker.alone store count (.ofLookUps use.lookUps, catalog) =
          (.finished (use.result store catalog).1, (use.result store catalog).2) := by
  refine ⟨CatalogHistory.isWriteOnce rfl, fun use store catalog => ?_⟩
  rw [← use.run_lookUps]
  exact Worker.exists_alone_eq_run store use.lookUps catalog

end ScriptLint
