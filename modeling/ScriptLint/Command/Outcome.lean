import ScriptLint.Docs.Maintenance
import ScriptLint.Files.CacheAccess
import ScriptLint.Project

/-!
# Outcomes of commands

What a command leaves behind when it ends: its exit code, what it writes to its two outputs, the
file system, and the requests it has made.
-/

namespace ScriptLint

/-- What a command leaves behind. -/
structure Outcome where
  /-- The exit code, which is zero if all is well. -/
  code : Nat
  output : String
  errors : String
  files : FileTree
  /-- The requests for documentation pages, in order. -/
  requests : List Request

namespace Outcome

def linesText (lines : List String) : String :=
  String.join (lines.map fun line => line ++ "\n")

/-- A command that ends because it cannot go on. -/
def failed (files : FileTree) (reason : String) : Outcome :=
  ⟨1, "", linesText ["error: " ++ reason], files, []⟩

end Outcome

/-- What commands need beside what they find around them. -/
structure Environment where
  surroundings : Surroundings
  site : String → Site
  now : Calendar.Instant

namespace Environment

def store (environment : Environment) (project : Project) : CacheStore :=
  let surroundings := environment.surroundings
  ⟨project.cache.path, surroundings.files.cacheDirectory surroundings.here project.cache.path⟩

def filesWith (environment : Environment) (store : CacheStore) : FileTree :=
  let surroundings := environment.surroundings
  surroundings.files.withCacheDirectory surroundings.here store.path store.directory

def maintainer (environment : Environment) (project : Project) : Maintainer :=
  ⟨environment.site project.settings.baseUrl, environment.now⟩

end Environment

end ScriptLint
