import ScriptLint.Cache.Directory
import ScriptLint.Files.Tree

/-!
# The cache in a file tree

The directory at the path of the cache as the cache sees it, and the tree with that directory as
the cache leaves it.
-/

namespace ScriptLint.FileTree

/-- What a name in a directory leads to, if it leads to anything. -/
def cacheNode? (tree : FileTree) (place : Place) (name : String) : Option (String × CacheNode) :=
  match tree.find? place name with
  | some (.file content) => some (name, .file content)
  | some .directory => some (name, .directory)
  | _ => none

def cacheDirectory (tree : FileTree) (here : Place) (path : String) : CacheDirectory :=
  match tree.find? here path with
  | some .directory =>
    let place := ((tree.arrive here path).toOption.map Arrival.place).getD []
    .present ((tree.children place).filterMap fun (name, _) => tree.cacheNode? place name)
  | some _ => .blocked
  | none =>
    match tree.createDirectories here path with
    | .ok _ => .absent
    | .error _ => .blocked

def writeCacheNode (here : Place) (path : String) (tree : FileTree) :
    String × CacheNode → FileTree
  | (name, .file content) =>
    (tree.writeFile here (Path.join path name) content).toOption.getD tree
  | (_, .directory) => tree

def withCacheDirectory (tree : FileTree) (here : Place) (path : String)
    (directory : CacheDirectory) : FileTree :=
  match directory with
  | .present nodes =>
    nodes.foldl (writeCacheNode here path) ((tree.createDirectories here path).toOption.getD tree)
  | _ => tree

end ScriptLint.FileTree
