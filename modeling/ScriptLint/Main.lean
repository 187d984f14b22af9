import ScriptLint.Command.Run
import ScriptLint.Web.Site
import Std.Time.DateTime.Timestamp

/-!
# The program

The outer layer of the checker.  It reads the part of the file system that a command line is about,
runs the checker on it, and does what the outcome says: it writes the files of the cache that have
changed and the two outputs.  No network is at hand, so that requests for pages have no answer.
-/

namespace ScriptLint.Main

def isReadAlong (fileName : String) : Bool :=
  Path.hasExtension Discovery.extension fileName ||
    IgnoreKind.all.any fun kind => kind.fileName.endsWith fileName

def withDirectories (tree : FileTree) (place : Place) : FileTree :=
  (FileTree.placesAbove place).foldl (fun known above =>
    if (known.node? above).isSome then known else known.set above .directory) tree

/-- The tree with what is really at a place.  The content of a file is read if that is asked for. -/
def addPlace (tree : FileTree) (place : Place) (readsContent : Bool) : IO FileTree := do
  let root ← IO.currentDir
  let file := root / Path.ofPlace place
  let known := withDirectories tree place
  try
    let metadata ← file.symlinkMetadata
    match metadata.type with
    | .dir => return known.set place .directory
    | .symlink => return known.set place (.link (← IO.FS.realPath file).toString)
    | _ =>
      let content ← if readsContent then IO.FS.readBinFile file else pure .empty
      return known.set place (.file content)
  catch _ => return tree

partial def addWay (tree : FileTree) (place : Place) : List String → IO FileTree
  | [] => return tree
  | segment :: rest => do
    if Path.isFiller segment then addWay tree place rest
    else if segment = ".." then addWay tree place.dropLast rest
    else
      let there := place ++ [segment]
      let known ← addPlace tree there rest.isEmpty
      match known.node? there with
      | some (.link target) => addWay known [] (Path.segments target ++ rest)
      | some _ => addWay known there rest
      | none => return known

def addPath (here : Place) (tree : FileTree) (path : String) : IO FileTree :=
  addWay tree (if Path.isAbsolute path then [] else here) (Path.segments path)

partial def addBelow (tree : FileTree) (place : Place) : IO FileTree := do
  let root ← IO.currentDir
  let names ← try
      let entries ← (root / Path.ofPlace place).readDir
      pure (entries.toList.map fun entry => entry.fileName)
    catch _ => pure []
  names.foldlM (fun known name => do
    let there := place ++ [name]
    let added ← if (known.node? there).isSome then pure known
      else addPlace known there (isReadAlong name)
    match added.node? there with
    | some .directory => addBelow added there
    | _ => return added) tree

def addSearched (here : Place) (tree : FileTree) (path : String) : IO FileTree := do
  let known ← addPath here tree path
  match (known.arrive here path).toOption with
  | some ⟨place, some .directory⟩ =>
    let inside ← addBelow known place
    (FileTree.placesAbove place).foldlM (fun tree above =>
      IgnoreKind.all.foldlM (fun tree kind =>
        addPath here tree (Path.join (Path.ofPlace above) kind.fileName)) tree) inside
  | _ => return known

def addPersonal (here : Place) (home : String) (tree : FileTree) : IO FileTree := do
  let known ← PersonalIgnore.settingsFiles.foldlM (fun tree file =>
    addPath here tree (Path.join home file)) tree
  addPath here known (PersonalIgnore.path known here home)

def cacheFiles (cache : String) : List String :=
  TrackedClass.names.map fun name => Path.join cache (CacheDirectory.fileName name)

/-- The tree with all that an invocation is about, and the path of its cache. -/
def gather (surroundings : Surroundings) (invocation : Invocation) : IO (FileTree × String) := do
  let here := surroundings.here
  let settingsFiles := match invocation.settingsFile with
    | some path => [path]
    | none => (Path.upward (Path.ofPlace here)).map fun path => Path.join path Settings.fileName
  let withSettings ← settingsFiles.foldlM (addPath here) surroundings.files
  let loaded := Project.load { surroundings with files := withSettings } invocation.settingsFile
    invocation.cacheDirectory
  match loaded with
  | .error _ => return (withSettings, "")
  | .ok project =>
    let withCache ← (cacheFiles project.cache.path).foldlM (addPath here) withSettings
    match invocation.command with
    | .check options =>
      let roots := if options.paths.isEmpty then [project.directory] else options.paths
      let searched ← roots.foldlM (addSearched here) withCache
      return (← addPersonal here surroundings.home searched, project.cache.path)
    | _ => return (withCache, project.cache.path)

def writeCache (here : Place) (before after : FileTree) (cache : String) : IO Unit := do
  let wasThere := before.isDirectory here cache
  if !wasThere && after.isDirectory here cache then IO.FS.createDirAll cache
  for path in cacheFiles cache do
    match after.readBytes here path, before.readBytes here path with
    | .ok content, .ok known => if content != known then IO.FS.writeBinFile path content
    | .ok content, .error _ => IO.FS.writeBinFile path content
    | .error _, _ => pure ()

end ScriptLint.Main

open ScriptLint in
def main (arguments : List String) : IO UInt32 := do
  let directory := (← IO.currentDir).toString
  let here := (Path.segments directory).filter fun segment => !Path.isFiller segment
  let start ← Main.addPath here .empty directory
  let home := (← IO.getEnv "HOME").getD "."
  let surroundings : Surroundings :=
    ⟨start, here, home, ← IO.getEnv CacheLocation.environmentName⟩
  let (files, cache) ←
    match Invocation.ofArguments arguments with
    | .ok invocation => Main.gather surroundings invocation
    | .error _ => pure (start, "")
  let now := Calendar.Instant.ofMillis (← Std.Time.Timestamp.now).toMillisecondsSinceUnixEpoch.val
  let environment : Environment :=
    ⟨{ surroundings with files }, Network.unreachable.site, now⟩
  let outcome := Program.run environment (← (← IO.getStderr).isTty) arguments
  if !cache.isEmpty then Main.writeCache here files outcome.files cache
  (← IO.getStderr).putStr outcome.errors
  (← IO.getStdout).putStr outcome.output
  return outcome.code.toUInt32
