import ScriptLint.Cache.Directory
import ScriptLint.Cache.Entry

/-!
# The cache store

The cache directory at its path, read and written entry by entry.  Reading for use never fails:
what cannot be read or decoded counts as absent.
-/

namespace ScriptLint

/-- A failure of the cache. -/
inductive CacheError where
  /-- A path could not be used. -/
  | unusable (path : String) (cause : FileError)
  /-- A file does not hold an entry. -/
  | malformed (path reason : String)
deriving DecidableEq, Repr

namespace CacheError

def message : CacheError → String
  | unusable path cause => "cache I/O error at " ++ path ++ ": " ++ cause.message
  | malformed path reason => "malformed cache file " ++ path ++ ": " ++ reason

end CacheError

/-- A cache directory at a path. -/
structure CacheStore where
  path : String
  directory : CacheDirectory

namespace CacheStore

def pathFor (store : CacheStore) (className : String) : String :=
  let separator := if store.path.isEmpty ∨ store.path.endsWith "/" then "" else "/"
  store.path ++ separator ++ CacheDirectory.fileName className

/-- The store with its directory made, unless it is there. -/
def create (store : CacheStore) : Except CacheError CacheStore :=
  match store.directory.create with
  | .ok directory => .ok { store with directory }
  | .error cause => .error (.unusable store.path cause)

/-- The entry of a class, or why there is none. -/
def tryRead (store : CacheStore) (className : String) : Except CacheError CacheEntry :=
  match store.directory.readText (CacheDirectory.fileName className) with
  | .error cause => .error (.unusable (store.pathFor className) cause)
  | .ok text =>
    match CacheEntry.ofFileText? className text with
    | some entry => .ok entry
    | none => .error (.malformed (store.pathFor className) "not a cache entry")

/-- The entry of a class, if its file holds one. -/
def read? (store : CacheStore) (className : String) : Option CacheEntry :=
  (store.tryRead className).toOption

/-- The entry of a class, if its file holds one with methods. -/
def readUsable? (store : CacheStore) (className : String) : Option CacheEntry :=
  (store.read? className).filter CacheEntry.isUsable

/-- The method table of a class, if its file holds an entry with methods. -/
def readMethods? (store : CacheStore) (className : String) : Option MethodTable :=
  (store.readUsable? className).map CacheEntry.methods

/-- The store with the entry of a class written, in place of what its file held.  The directory is
made first if it is not there. -/
def write (store : CacheStore) (className : String) (entry : CacheEntry) :
    Except CacheError CacheStore :=
  match store.create with
  | .error failure => .error failure
  | .ok created =>
    match created.directory.writeFile (CacheDirectory.fileName className) entry.fileText.toUTF8 with
    | .ok directory => .ok { created with directory }
    | .error cause => .error (.unusable (store.pathFor className) cause)

end CacheStore

end ScriptLint
