import ScriptLint.Settings.CacheLocation
import ScriptLint.Settings.Loading

/-!
# Projects

A project is a directory with its settings and its cache.  It is the directory of the settings file
that is named, or else the nearest one upward from the working directory that has a settings file,
or else the working directory.
-/

namespace ScriptLint

/-- What a program finds around it when it starts. -/
structure Surroundings where
  files : FileTree
  here : Place
  home : String
  cacheVariable : Option String

/-- A project. -/
structure Project where
  directory : String
  settings : Settings
  cache : CacheLocation

namespace Project

def findRoot (tree : FileTree) (here : Place) (start : String) : Option String :=
  (Path.upward start).find? (Settings.isIn tree here)

/-- The directory of a file, where the working directory is a dot. -/
def directoryOf (path : String) : String :=
  ((Path.parent? path).filter (!·.isEmpty)).getD "."

/-- The project whose settings file is named, or the one of the working directory. -/
def load (surroundings : Surroundings) (settingsFile cacheDirectory : Option String) :
    Except SettingsError Project :=
  let tree := surroundings.files
  let here := surroundings.here
  let (directory, loaded) :=
    match settingsFile with
    | some path => (directoryOf path, Settings.ofFile tree here path)
    | none =>
      let start := Path.ofPlace here
      let root := (findRoot tree here start).getD start
      (root, Settings.ofDirectory tree here root)
  loaded.map fun settings =>
    ⟨directory, settings,
      .resolve (Path.join surroundings.home CacheLocation.standardName) cacheDirectory
        surroundings.cacheVariable settings.cacheDirectory⟩

end Project

end ScriptLint
