import ScriptLint.Files.Tree
import ScriptLint.Settings.Decoder

/-!
# Loading settings

The settings file of a project is in its directory.  A project need not have one.
-/

namespace ScriptLint.Settings

def fileName : String :=
  "gsapi.toml"

def isIn (tree : FileTree) (here : Place) (directory : String) : Bool :=
  tree.isFile here (Path.join directory fileName)

def ofFile (tree : FileTree) (here : Place) (path : String) : Except SettingsError Settings :=
  match tree.readText here path with
  | .ok text => ofText text
  | .error cause => .error (.unreadable cause)

def ofDirectory (tree : FileTree) (here : Place) (directory : String) :
    Except SettingsError Settings :=
  if isIn tree here directory then ofFile tree here (Path.join directory fileName)
  else .ok standard

end ScriptLint.Settings
