import ScriptLint.Cache.Store
import ScriptLint.Docs.Freshness
import ScriptLint.Docs.Layout
import ScriptLint.Docs.Site
import ScriptLint.Registry

/-!
# Maintenance of the cache

A refresh of a class first asks for the headers of its page, if a usable entry with headers is in
the cache, and keeps the entry when these show it to be fresh.  Otherwise the page is fetched, and
what it describes is written into the cache, unless it describes nothing.  An update refreshes all
tracked classes in order.
-/

namespace ScriptLint

open Calendar

/-- What a refresh did for a class. -/
inductive RefreshOutcome where
  | reused (methods : MethodTable)
  /-- The page was fetched; the entry may have been written into the cache. -/
  | fetched (methods : MethodTable) (persisted : Bool)
deriving DecidableEq

namespace RefreshOutcome

def methods : RefreshOutcome → MethodTable
  | reused methods => methods
  | fetched methods _ => methods

end RefreshOutcome

abbrev RefreshResult := Except DocsError RefreshOutcome

/-- A result with the store afterwards and the requests that were made for it. -/
structure Maintained (Result : Type) where
  result : Result
  store : CacheStore
  /-- The requests, in order. -/
  requests : List Request

/-- A site whose pages are kept in a cache, and the time. -/
structure Maintainer where
  site : Site
  now : Instant

namespace Maintainer

def candidate? (store : CacheStore) (className : String) :
    Option (MethodTable × ValidationHeaders) :=
  (store.readUsable? className).bind fun entry =>
    entry.headers.map fun headers => (entry.methods, headers)

/-- Whether the headers that the site sends for a page show kept headers to be fresh. -/
def confirms (maintainer : Maintainer) (page : String) (kept : ValidationHeaders) : Bool :=
  match maintainer.site.head page with
  | .ok live => !(Freshness.assess (some kept) live maintainer.now).needsRefresh
  | .error _ => false

/-- The store with its directory made, if that is possible. -/
def prepare (store : CacheStore) : CacheStore :=
  store.create.toOption.getD store

/-- The store with what a page describes written as the entry of a class, and whether it could be
written. -/
def persist (store : CacheStore) (className : String) (entry : CacheEntry) : Bool × CacheStore :=
  match store.write className entry with
  | .ok written => (true, written)
  | .error _ => (false, prepare store)

def fetch (maintainer : Maintainer) (store : CacheStore) (trackedClass : TrackedClass) :
    RefreshResult × CacheStore :=
  match maintainer.site.fetch trackedClass.page with
  | .error failure => (.error failure, store)
  | .ok page =>
    let methods := methodsOfMarkup page.markup
    if methods.isEmpty then (.ok (.fetched methods false), store)
    else
      let entry : CacheEntry :=
        ⟨trackedClass.name, methods, some page.headers, some maintainer.now⟩
      let (persisted, written) := persist store trackedClass.name entry
      (.ok (.fetched methods persisted), written)

/-- Refreshes a tracked class.  A forced refresh always fetches. -/
def refreshTracked (maintainer : Maintainer) (force : Bool) (store : CacheStore)
    (trackedClass : TrackedClass) : Maintained RefreshResult :=
  let page := trackedClass.page
  let candidate := if force then none else candidate? store trackedClass.name
  let probes := if candidate.isSome then [Request.head page] else []
  match candidate.filter fun (_, kept) => maintainer.confirms page kept with
  | some (methods, _) => ⟨.ok (.reused methods), store, probes⟩
  | none =>
    let (result, written) := maintainer.fetch store trackedClass
    ⟨result, written, probes ++ [.fetch page]⟩

def refresh (maintainer : Maintainer) (force : Bool) (store : CacheStore) (className : String) :
    Maintained RefreshResult :=
  match TrackedClass.ofName? className with
  | some trackedClass => maintainer.refreshTracked force store trackedClass
  | none => ⟨.error (.untracked className), store, []⟩

/-- Refreshes classes one after the other, whatever the results. -/
def refreshEach (maintainer : Maintainer) (force : Bool) :
    List TrackedClass → CacheStore → Maintained (List (TrackedClass × RefreshResult))
  | [], store => ⟨[], store, []⟩
  | trackedClass :: rest, store =>
    let first := maintainer.refreshTracked force store trackedClass
    let others := maintainer.refreshEach force rest first.store
    ⟨(trackedClass, first.result) :: others.result, others.store,
      first.requests ++ others.requests⟩

/-- Refreshes classes one after the other up to the first failure. -/
def refreshUntilFailure (maintainer : Maintainer) (force : Bool) :
    List TrackedClass → CacheStore →
      Maintained (Except DocsError (List (TrackedClass × RefreshOutcome)))
  | [], store => ⟨.ok [], store, []⟩
  | trackedClass :: rest, store =>
    let first := maintainer.refreshTracked force store trackedClass
    match first.result with
    | .error failure => ⟨.error failure, first.store, first.requests⟩
    | .ok outcome =>
      let others := maintainer.refreshUntilFailure force rest first.store
      ⟨others.result.map ((trackedClass, outcome) :: ·), others.store,
        first.requests ++ others.requests⟩

/-- Refreshes all tracked classes, whatever the results. -/
def updateEach (maintainer : Maintainer) (force : Bool) (store : CacheStore) :
    Maintained (List (TrackedClass × RefreshResult)) :=
  maintainer.refreshEach force TrackedClass.all (prepare store)

def updateAll (maintainer : Maintainer) (force : Bool) (store : CacheStore) :
    Maintained (Except DocsError (List (TrackedClass × RefreshOutcome))) :=
  maintainer.refreshUntilFailure force TrackedClass.all (prepare store)

end Maintainer

end ScriptLint
