import ScriptLint.Settings.Basic

/-!
# The location of the cache

The cache directory may be named on the command line, by the environment and in the settings, of
which the first one that names any counts.  Otherwise it is in the home directory.
-/

namespace ScriptLint

/-- What named a cache directory. -/
inductive CacheOrigin where
  | commandLine
  | environment
  | settings
  /-- Nothing did; it is in the home directory. -/
  | home
deriving DecidableEq, Repr

/-- A cache directory and what named it. -/
structure CacheLocation where
  path : String
  origin : CacheOrigin
deriving DecidableEq, Repr

namespace CacheLocation

def environmentName : String :=
  "GS_DOC_CACHE_DIR"

def standardName : String :=
  ".openttd-gs-api-cache"

/-- The cache directory that is used.  An empty name counts as none, and so does a blank one in the
environment. -/
def resolve (standard : String) (commandLine environment settings : Option String) :
    CacheLocation :=
  match commandLine.filter (!·.isEmpty) with
  | some path => ⟨path, .commandLine⟩
  | none =>
    match environment.filter fun value => !(Text.trimString value).isEmpty with
    | some path => ⟨path, .environment⟩
    | none =>
      match settings.filter (!·.isEmpty) with
      | some path => ⟨path, .settings⟩
      | none => ⟨standard, .home⟩

end CacheLocation

end ScriptLint
