import ScriptLint.Cache.Store
import ScriptLint.Registry

/-!
# The catalog

The method tables of the tracked classes, loaded from the cache when they are first asked for and
kept from then on.  A class whose file gives no table is asked for again each time.
-/

namespace ScriptLint

/-- The tables loaded so far. -/
structure Catalog where
  loaded : TrackedClass → Option MethodTable

/-- How many of the tracked classes have a usable table. -/
inductive Readiness where
  | ready
  /-- Some; the others are listed. -/
  | partly (missing : List TrackedClass)
  | empty
deriving DecidableEq, Repr

namespace Catalog

def unloaded : Catalog :=
  ⟨fun _ => none⟩

/-- The catalog with a table kept for a class, unless it has one. -/
def install (catalog : Catalog) (trackedClass : TrackedClass) (table : MethodTable) : Catalog :=
  match catalog.loaded trackedClass with
  | some _ => catalog
  | none =>
    ⟨fun other => if other = trackedClass then some table else catalog.loaded other⟩

/-- Looks a tracked class up, loading its table if it is not loaded: the table, and the catalog
afterwards. -/
def lookUp (catalog : Catalog) (store : CacheStore) (trackedClass : TrackedClass) :
    Option MethodTable × Catalog :=
  match catalog.loaded trackedClass with
  | some table => (some table, catalog)
  | none =>
    match store.readMethods? trackedClass.name with
    | none => (none, catalog)
    | some table =>
      let installed := catalog.install trackedClass table
      (installed.loaded trackedClass, installed)

/-- Looks a class up by its name.  A class that is not tracked has no table. -/
def get (catalog : Catalog) (store : CacheStore) (className : String) :
    Option MethodTable × Catalog :=
  match TrackedClass.ofName? className with
  | some trackedClass => catalog.lookUp store trackedClass
  | none => (none, catalog)

def isLoaded (catalog : Catalog) (className : String) : Bool :=
  ((TrackedClass.ofName? className).bind catalog.loaded).isSome

/-- The classes of a list that have no usable table, and the catalog after all were looked up. -/
def missingAmong (store : CacheStore) :
    List TrackedClass → Catalog → List TrackedClass × Catalog
  | [], catalog => ([], catalog)
  | trackedClass :: rest, catalog =>
    let (table, afterFirst) := catalog.lookUp store trackedClass
    let (missing, afterAll) := missingAmong store rest afterFirst
    (if table.isSome then missing else trackedClass :: missing, afterAll)

def readinessOf (missing : List TrackedClass) : Readiness :=
  if missing.isEmpty then .ready
  else if missing.length = TrackedClass.all.length then .empty
  else .partly missing

def warm (catalog : Catalog) (store : CacheStore) : Readiness × Catalog :=
  let (missing, afterAll) := missingAmong store TrackedClass.all catalog
  (readinessOf missing, afterAll)

end Catalog

end ScriptLint
