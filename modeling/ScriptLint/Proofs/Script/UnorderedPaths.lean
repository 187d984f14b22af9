import Mathlib.Data.List.Sort
import ScriptLint.Proofs.Script.FoundScripts

/-!
# Paths in any order

Which scripts are found depends on which paths are given, and neither on their order nor on how
often they are given or on what they share.  What the walk of a directory selects is left open here:
any selection will do, so long as no walk fails.  The scripts in the directory are those of the
selected entries that are files with the extension of scripts.
-/

namespace ScriptLint.Discovery

open ScriptLint.Path

variable {tree : FileTree} {here : Place} {home directory path : String}
variable {search : String → Except DiscoveryError (List String)}
variable {walk : String → List (Place × FileNode)}
variable {paths others found alsoFound inside : List String}

/-- The entries that the walk of a directory selects: all that lie below the place it leads to,
unless they or a directory on the way to them are hidden or ignored.  A dash is no directory to look
into. -/
def visibleEntries (tree : FileTree) (here : Place) (home directory : String) :
    List (Place × FileNode) :=
  if parts directory = [.name "-"] then []
  else
    match tree.arrive here directory with
    | .error _ => []
    | .ok arrival =>
      (tree.below arrival.place).filter fun entry =>
        isReached (viewOf tree here home arrival.place) directory arrival.place entry.1

/-- Whether a path is that of a script among the entries that a walk selects. -/
def IsScriptAmong (walk : String → List (Place × FileNode)) (directory path : String) : Prop :=
  ∃ names content, (names, .file content) ∈ walk directory ∧
    hasExtension extension (names.getLastD "") ∧ path = joinNames directory names

/-- Whether the search of a directory finds the scripts among the entries that a walk selects. -/
def FindsAmong (search : String → Except DiscoveryError (List String))
    (walk : String → List (Place × FileNode)) (directory : String) : Prop :=
  ∃ inside, search directory = .ok inside ∧
    ∀ path, path ∈ inside ↔ IsScriptAmong walk directory path

/-- Unless it fails, the search of a directory finds the scripts among its visible entries. -/
theorem findsAmong_scriptsIn (searched : scriptsIn tree here home directory = .ok inside) :
    FindsAmong (scriptsIn tree here home) (visibleEntries tree here home) directory := by
  refine ⟨inside, searched, fun path => ?_⟩
  rw [scriptsIn] at searched
  rw [IsScriptAmong, visibleEntries]
  split_ifs at searched ⊢ with dash
  · cases searched
    simp
  · cases arrived : tree.arrive here directory with
    | error failure =>
        rw [arrived] at searched
        cases searched
    | ok arrival =>
        rw [arrived] at searched
        dsimp only at searched ⊢
        split at searched
        · cases searched
          rw [List.mem_filterMap]
          simp only [List.mem_filter]
          constructor
          · rintro ⟨⟨names, node⟩, below, kept⟩
            cases node with
            | file content =>
                obtain ⟨script, same⟩ := Option.ite_none_right_eq_some.mp kept
                rw [Bool.and_eq_true] at script
                exact ⟨names, content, ⟨below, script.2⟩, script.1, (Option.some.inj same).symm⟩
            | directory => cases kept
            | link target => cases kept
          · rintro ⟨names, content, ⟨below, reached⟩, script, rfl⟩
            exact ⟨(names, .file content), below, if_pos (by rw [script, reached]; rfl)⟩
        · cases searched

/-- Whether a path leads neither to a directory nor to a file. -/
def LeadsNowhere (tree : FileTree) (here : Place) (path : String) : Prop :=
  ¬tree.isDirectory here path ∧ ¬tree.isFile here path

/-- The paths can be collected just when each of them leads to a directory or a file. -/
theorem exists_collect_iff
    (walks : ∀ given ∈ paths, tree.isDirectory here given → FindsAmong search walk given) :
    (∃ found, collect tree here search paths = .ok found) ↔
      ∀ given ∈ paths, ¬LeadsNowhere tree here given := by
  induction paths with
  | nil => simp [collect]
  | cons first rest ih =>
      have later := ih fun given member => walks given (List.mem_cons_of_mem first member)
      rw [List.forall_mem_cons, ← later, collect]
      split_ifs with isDirectory isFile
      · obtain ⟨inside, searched, -⟩ := walks first List.mem_cons_self isDirectory
        cases collected : collect tree here search rest <;>
          simp [searched, LeadsNowhere, isDirectory, Except.map]
      · cases collected : collect tree here search rest <;>
          simp [LeadsNowhere, isFile, Except.map]
      · simp [LeadsNowhere, isDirectory, isFile]

theorem discover_fails_iff
    (walks : ∀ given ∈ paths, tree.isDirectory here given → FindsAmong search walk given) :
    (∃ failure, discover tree here search paths = .error failure) ↔
      ∃ given ∈ paths, LeadsNowhere tree here given := by
  have collects := exists_collect_iff walks
  rw [discover]
  cases collected : collect tree here search paths with
  | error failure =>
      simp only [collected, reduceCtorEq, exists_false, false_iff] at collects
      simpa [Except.map] using collects
  | ok all =>
      simp only [collected, Except.ok.injEq, exists_eq', true_iff] at collects
      simpa [Except.map] using collects

/-- Whether a path is to be found: it is given and leads to a file, or it is that of a script which
the walk of a given directory selects. -/
def IsToBeFound (tree : FileTree) (here : Place) (walk : String → List (Place × FileNode))
    (paths : List String) (path : String) : Prop :=
  (path ∈ paths ∧ tree.isFile here path) ∨
    ∃ directory ∈ paths, tree.isDirectory here directory ∧ IsScriptAmong walk directory path

theorem mem_collect_iff_isToBeFound
    (walks : ∀ given ∈ paths, tree.isDirectory here given → FindsAmong search walk given)
    (collected : collect tree here search paths = .ok found) :
    path ∈ found ↔ IsToBeFound tree here walk paths path := by
  rw [mem_collect_iff collected, IsToBeFound]
  constructor
  · rintro ⟨given, givenMem, ⟨rfl, isFile⟩ | ⟨isDirectory, inside, searched, member⟩⟩
    · exact .inl ⟨givenMem, isFile⟩
    · obtain ⟨listed, alsoSearched, among⟩ := walks given givenMem isDirectory
      obtain rfl := Except.ok.inj (alsoSearched.symm.trans searched)
      exact .inr ⟨given, givenMem, isDirectory, (among path).mp member⟩
  · rintro (⟨givenMem, isFile⟩ | ⟨directory, givenMem, isDirectory, script⟩)
    · exact ⟨path, givenMem, .inl ⟨rfl, isFile⟩⟩
    · obtain ⟨inside, searched, among⟩ := walks directory givenMem isDirectory
      exact ⟨directory, givenMem, .inr ⟨isDirectory, inside, searched, (among path).mpr script⟩⟩

/-- What is to be found is found by one path, and nothing else is. -/
theorem mem_discover
    (walks : ∀ given ∈ paths, tree.isDirectory here given → FindsAmong search walk given)
    (finds : discover tree here search paths = .ok found) :
    (∀ path ∈ found, IsToBeFound tree here walk paths path) ∧
      ∀ path, IsToBeFound tree here walk paths path → ∃ kept ∈ found, parts kept = parts path := by
  obtain ⟨all, collected, rfl⟩ := exists_collect_of_discover finds
  refine ⟨fun path member => ?_, fun path wanted => ?_⟩
  · exact (mem_collect_iff_isToBeFound walks collected).mp (mem_of_mem_sortPaths member)
  · exact exists_mem_sortPaths ((mem_collect_iff_isToBeFound walks collected).mpr wanted)

theorem discover_ascending (finds : discover tree here search paths = .ok found) :
    found.Pairwise fun left right => order left right = .lt := by
  obtain ⟨all, -, rfl⟩ := exists_collect_of_discover finds
  exact sortPaths_ascending all

theorem mem_map_parts_discover
    (walks : ∀ given ∈ paths, tree.isDirectory here given → FindsAmong search walk given)
    (finds : discover tree here search paths = .ok found) {names : List PathPart} :
    names ∈ found.map parts ↔
      ∃ path, IsToBeFound tree here walk paths path ∧ parts path = names := by
  obtain ⟨onlyWanted, allWanted⟩ := mem_discover walks finds
  rw [List.mem_map]
  constructor
  · rintro ⟨path, member, rfl⟩
    exact ⟨path, onlyWanted path member, rfl⟩
  · rintro ⟨path, wanted, rfl⟩
    exact allWanted path wanted

/-- Paths in strictly ascending order are settled by which paths they are. -/
theorem map_parts_eq_of_ascending
    (ascending : found.Pairwise fun left right => order left right = .lt)
    (alsoAscending : alsoFound.Pairwise fun left right => order left right = .lt)
    (same : ∀ names, names ∈ found.map parts ↔ names ∈ alsoFound.map parts) :
    found.map parts = alsoFound.map parts := by
  have strict : Std.Irrefl fun left right : List PathPart => compare left right = .lt :=
    ⟨fun names => by simp⟩
  have asymmetric : Std.Antisymm fun left right : List PathPart => compare left right = .lt :=
    ⟨fun left right less more => absurd more (by rw [Std.OrientedOrd.eq_swap, less]; decide)⟩
  have onParts (listed : List String)
      (inOrder : listed.Pairwise fun left right => order left right = .lt) :
      (listed.map parts).Pairwise fun left right => compare left right = .lt :=
    List.pairwise_map.mpr inOrder
  exact (onParts found ascending).eq_of_mem_iff (onParts alsoFound alsoAscending) same

/-- Lists of the same paths are treated alike.  Either both fail, which they do just when one of the
paths leads neither to a directory nor to a file, or what is found by both is equal path by path and
strictly ascending: the given files, whatever their extension, and those files with the extension of
scripts that the walks of the given directories select, each of them by one path.  Any selection
will do for which no walk fails; the program's own one is that of the visible entries. -/
theorem discovery_depends_on_path_set
    (walks : ∀ given ∈ paths, tree.isDirectory here given → FindsAmong search walk given)
    (same : ∀ path, path ∈ paths ↔ path ∈ others) :
    let find := discover tree here search
    ((∃ failure, find paths = .error failure) ↔ ∃ failure, find others = .error failure) ∧
      ((∃ failure, find paths = .error failure) ↔
        ∃ given ∈ paths, ¬tree.isDirectory here given ∧ ¬tree.isFile here given) ∧
      (∀ found alsoFound, find paths = .ok found → find others = .ok alsoFound →
        found.map parts = alsoFound.map parts ∧
          (found.Pairwise fun left right => order left right = .lt) ∧
          (∀ path ∈ found, IsToBeFound tree here walk paths path) ∧
          ∀ path, IsToBeFound tree here walk paths path →
            ∃ kept ∈ found, parts kept = parts path) ∧
      ∀ home directory inside, scriptsIn tree here home directory = .ok inside →
        FindsAmong (scriptsIn tree here home) (visibleEntries tree here home) directory := by
  intro find
  have alsoWalks : ∀ given ∈ others, tree.isDirectory here given →
      FindsAmong search walk given := fun given member => walks given ((same given).mpr member)
  have fails := discover_fails_iff walks
  refine ⟨?_, fails, ?_, fun home directory inside => findsAmong_scriptsIn⟩
  · rw [fails, discover_fails_iff alsoWalks]
    simp only [same]
  · intro found alsoFound finds alsoFinds
    have ascending := discover_ascending finds
    refine ⟨?_, ascending, mem_discover walks finds⟩
    refine map_parts_eq_of_ascending ascending (discover_ascending alsoFinds) fun names => ?_
    rw [mem_map_parts_discover walks finds, mem_map_parts_discover alsoWalks alsoFinds]
    simp only [IsToBeFound, same]

/-- A tree with a directory that holds a script and a text, and with a text beside it. -/
def library : FileTree :=
  ⟨[(["lib"], .directory), (["lib", "a.nut"], .file .empty), (["lib", "b.txt"], .file .empty),
    (["c.txt"], .file .empty)]⟩

/-- What is selected in the directory of the tree: both of its files. -/
def libraryWalk : String → List (Place × FileNode) :=
  fun _ => [(["a.nut"], .file .empty), (["b.txt"], .file .empty)]

def librarySearch : String → Except DiscoveryError (List String) :=
  fun directory => .ok [joinNames directory ["a.nut"]]

theorem findsAmong_librarySearch (directory : String) :
    FindsAmong librarySearch libraryWalk directory := by
  refine ⟨[joinNames directory ["a.nut"]], rfl, fun path => ?_⟩
  have script : hasExtension extension "a.nut" = true := by decide +kernel
  have noScript : hasExtension extension "b.txt" = false := by decide +kernel
  simp [IsScriptAmong, libraryWalk, or_and_right, exists_or, script, noScript]

theorem find?_library :
    library.find? [] "c.txt" = some (.file .empty) ∧ library.find? [] "lib" = some .directory ∧
      library.find? [] "lib/a.nut" = some (.file .empty) := by
  have cut : Path.segments "c.txt" = ["c.txt"] ∧ Path.isAbsolute "c.txt" = false ∧
      Path.segments "lib" = ["lib"] ∧ Path.isAbsolute "lib" = false ∧
      Path.segments "lib/a.nut" = ["lib", "a.nut"] ∧ Path.isAbsolute "lib/a.nut" = false := by
    decide +kernel
  simp [library, FileTree.find?, FileTree.arrive, cut, FileTree.follow, FileTree.node?,
    Path.isFiller, Except.toOption, List.lookup_cons]

theorem discovery_depends_on_path_set_library :
    let find := discover library [] librarySearch
    let paths := ["c.txt", "lib", "lib/a.nut"]
    let others := ["lib/a.nut", "lib", "lib/a.nut", "c.txt"]
    (∀ given ∈ paths, library.isDirectory [] given →
        FindsAmong librarySearch libraryWalk given) ∧
      (∀ path, path ∈ paths ↔ path ∈ others) ∧
      ∃ found alsoFound, find paths = .ok found ∧ find others = .ok alsoFound ∧
        found.map parts = alsoFound.map parts ∧
        (∃ kept ∈ found, parts kept = [.name "c.txt"]) ∧
        ∃ kept ∈ found, parts kept = [.name "lib", .name "a.nut"] := by
  intro find paths others
  have walks : ∀ given ∈ paths, library.isDirectory [] given →
      FindsAmong librarySearch libraryWalk given := fun given _ _ =>
    findsAmong_librarySearch given
  have same : ∀ path, path ∈ paths ↔ path ∈ others := by
    simp only [paths, others, List.mem_cons, List.not_mem_nil]
    tauto
  obtain ⟨text, directory, script⟩ := find?_library
  obtain ⟨alike, fails, finds, -⟩ := discovery_depends_on_path_set walks same
  have succeeds : ¬∃ failure, find paths = .error failure := by
    rw [fails]
    simp [paths, FileTree.isDirectory, FileTree.isFile, text, directory, script]
  cases found : find paths with
  | error failure => exact absurd ⟨failure, found⟩ succeeds
  | ok scripts =>
      cases alsoFound : find others with
      | error failure => exact absurd (alike.mpr ⟨failure, alsoFound⟩) succeeds
      | ok alsoScripts =>
          obtain ⟨equal, -, -, all⟩ := finds scripts alsoScripts found alsoFound
          have named : parts "c.txt" = [.name "c.txt"] ∧
              parts "lib/a.nut" = [.name "lib", .name "a.nut"] := by decide +kernel
          rw [← named.1, ← named.2]
          refine ⟨walks, same, scripts, alsoScripts, rfl, rfl, equal, ?_, ?_⟩
          · exact all "c.txt" (.inl ⟨by simp [paths], by rw [FileTree.isFile, text]⟩)
          · exact all "lib/a.nut" (.inl ⟨by simp [paths], by rw [FileTree.isFile, script]⟩)

end ScriptLint.Discovery
