import ScriptLint.Proofs.Files.PathParts
import ScriptLint.Proofs.Lint.CheckOrder

/-!
# Scripts found once

The scripts among given paths are listed in strictly ascending order, so no path is listed twice.
Paths are compared with the dot that they may begin with, though: a file that is found by a path
with this dot and by one without it is listed by both of them, and only then is it listed twice.
-/

namespace ScriptLint

open ScriptLint.Path

/-- Whether no name in a tree holds a slash. -/
def FileTree.NamesHoldNoSlash (tree : FileTree) : Prop :=
  ∀ entry ∈ tree.nodes, ∀ name ∈ entry.1, '/' ∉ name.toList

namespace Discovery

variable {tree : FileTree} {here : Place} {home directory path : String}
variable {paths found : List String}

theorem mem_of_mem_dropRepeats {last : String} (kept : path ∈ dropRepeats last paths) :
    path ∈ paths := by
  induction paths generalizing last with
  | nil => exact kept
  | cons first rest ih =>
      rw [dropRepeats] at kept
      split_ifs at kept
      · exact List.mem_cons_of_mem first (ih kept)
      · rcases List.mem_cons.mp kept with rfl | inRest
        · exact List.mem_cons_self
        · exact List.mem_cons_of_mem first (ih inRest)

theorem exists_mem_dropRepeats {last : String} (member : path ∈ last :: paths) :
    ∃ kept ∈ last :: dropRepeats last paths, parts kept = parts path := by
  induction paths generalizing last with
  | nil => exact ⟨path, member, rfl⟩
  | cons first rest ih =>
      rw [dropRepeats]
      split_ifs with same
      · rcases List.mem_cons.mp member with rfl | inRest
        · exact ⟨path, List.mem_cons_self, rfl⟩
        · rcases List.mem_cons.mp inRest with rfl | later
          · exact ⟨last, List.mem_cons_self, same.symm⟩
          · exact ih (List.mem_cons_of_mem last later)
      · rcases List.mem_cons.mp member with rfl | inRest
        · exact ⟨path, List.mem_cons_self, rfl⟩
        · obtain ⟨kept, keptMem, keptEq⟩ := ih inRest
          exact ⟨kept, List.mem_cons_of_mem last keptMem, keptEq⟩

/-- Of sorted paths those that are kept ascend strictly. -/
theorem dropRepeats_ascending {last : String}
    (sorted : (last :: paths).Pairwise fun left right => (order left right).isLE) :
    (last :: dropRepeats last paths).Pairwise fun left right => order left right = .lt := by
  induction paths generalizing last with
  | nil => exact List.pairwise_singleton _ last
  | cons first rest ih =>
      obtain ⟨lastLeast, restSorted⟩ := List.pairwise_cons.mp sorted
      rw [dropRepeats]
      split_ifs with same
      · refine ih (List.pairwise_cons.mpr ⟨fun other inRest => ?_, restSorted.of_cons⟩)
        exact lastLeast other (List.mem_cons_of_mem first inRest)
      · have ascending := ih restSorted
        have before : order last first = .lt :=
          order_lt_of_isLE_of_ne (lastLeast first List.mem_cons_self) (Ne.symm same)
        refine List.pairwise_cons.mpr ⟨fun other later => ?_, ascending⟩
        rcases List.mem_cons.mp later with rfl | inRest
        · exact before
        · exact order_lt_trans before ((List.pairwise_cons.mp ascending).1 other inRest)

theorem mergeSort_ordered (paths : List String) :
    (paths.mergeSort fun left right => (order left right).isLE).Pairwise
      fun left right => (order left right).isLE := by
  apply List.pairwise_mergeSort
  · intro left middle right first second
    exact order_isLE_trans first second
  · intro left right
    simpa using order_isLE_total left right

theorem sortPaths_eq (paths : List String) :
    (paths = [] ∧ sortPaths paths = []) ∨
      ∃ first rest, sortPaths paths = first :: dropRepeats first rest ∧
        (first :: rest).Perm paths ∧
        (first :: rest).Pairwise fun left right => (order left right).isLE := by
  have ordered := mergeSort_ordered paths
  have rearranged := List.mergeSort_perm paths fun left right => (order left right).isLE
  rw [sortPaths]
  generalize paths.mergeSort (fun left right => (order left right).isLE) = sorted at *
  cases sorted with
  | nil => exact .inl ⟨List.nil_perm.mp rearranged, rfl⟩
  | cons first rest => exact .inr ⟨first, rest, rfl, rearranged, ordered⟩

theorem sortPaths_ascending (paths : List String) :
    (sortPaths paths).Pairwise fun left right => order left right = .lt := by
  rcases sortPaths_eq paths with ⟨-, nothing⟩ | ⟨first, rest, kept, -, ordered⟩
  · rw [nothing]
    exact List.Pairwise.nil
  · rw [kept]
    exact dropRepeats_ascending ordered

theorem mem_of_mem_sortPaths (member : path ∈ sortPaths paths) : path ∈ paths := by
  rcases sortPaths_eq paths with ⟨-, nothing⟩ | ⟨first, rest, kept, rearranged, -⟩
  · rw [nothing] at member
    cases member
  · rw [kept] at member
    refine rearranged.subset ?_
    rcases List.mem_cons.mp member with rfl | inRest
    · exact List.mem_cons_self
    · exact List.mem_cons_of_mem first (mem_of_mem_dropRepeats inRest)

theorem exists_mem_sortPaths (member : path ∈ paths) :
    ∃ kept ∈ sortPaths paths, parts kept = parts path := by
  rcases sortPaths_eq paths with ⟨rfl, -⟩ | ⟨first, rest, kept, rearranged, -⟩
  · cases member
  · rw [kept]
    exact exists_mem_dropRepeats (rearranged.symm.subset member)

theorem dropRepeats_of_ascending {last : String}
    (ascending : (last :: paths).Pairwise fun left right => order left right = .lt) :
    dropRepeats last paths = paths := by
  induction paths generalizing last with
  | nil => rfl
  | cons first rest ih =>
      obtain ⟨before, later⟩ := List.pairwise_cons.mp ascending
      have different := parts_ne_of_order_lt (before first List.mem_cons_self)
      rw [dropRepeats, if_neg (Ne.symm different), ih later]

theorem sortPaths_of_ascending
    (ascending : paths.Pairwise fun left right => order left right = .lt) :
    sortPaths paths = paths := by
  have ordered : paths.Pairwise fun left right => (order left right).isLE :=
    ascending.imp fun before => by rw [before]; rfl
  rw [sortPaths, List.mergeSort_of_pairwise ordered]
  cases paths with
  | nil => rfl
  | cons first rest =>
      dsimp only
      rw [dropRepeats_of_ascending ascending]

/-- Whether a path is found by way of a given one: it is given itself and leads to a file, or it is
found in the given directory. -/
def FoundBy (tree : FileTree) (here : Place)
    (search : String → Except DiscoveryError (List String)) (given path : String) : Prop :=
  (given = path ∧ tree.isFile here given) ∨
    (tree.isDirectory here given ∧ ∃ inside, search given = .ok inside ∧ path ∈ inside)

theorem not_isFile_of_isDirectory (isDirectory : tree.isDirectory here path) :
    ¬tree.isFile here path := by
  rw [FileTree.isDirectory] at isDirectory
  rw [FileTree.isFile]
  split at isDirectory
  · rename_i node
    simp [node]
  · cases isDirectory

section Collecting

variable {search : String → Except DiscoveryError (List String)}

/-- What is collected is found by the first path, and then by the others. -/
theorem exists_of_collect_cons {first : String} {rest : List String}
    (collected : collect tree here search (first :: rest) = .ok found) :
    ∃ inFront others, (∀ path, path ∈ inFront ↔ FoundBy tree here search first path) ∧
      collect tree here search rest = .ok others ∧ found = inFront ++ others := by
  rw [collect] at collected
  cases collectedRest : collect tree here search rest with
  | error failure =>
      rw [collectedRest] at collected
      split_ifs at collected
      · split at collected <;> cases collected
      · cases collected
  | ok others =>
      rw [collectedRest] at collected
      split_ifs at collected with isDirectory isFile
      · split at collected
        · cases collected
        · rename_i inside searched
          cases collected
          refine ⟨inside, others, fun path => ?_, rfl, rfl⟩
          simp only [FoundBy, not_isFile_of_isDirectory isDirectory, searched, isDirectory]
          simp
      · cases collected
        refine ⟨[first], others, fun path => ?_, rfl, rfl⟩
        simp [FoundBy, isDirectory, isFile, eq_comm]

theorem mem_collect_iff (collected : collect tree here search paths = .ok found) :
    path ∈ found ↔ ∃ given ∈ paths, FoundBy tree here search given path := by
  induction paths generalizing found with
  | nil =>
      cases collected
      simp
  | cons first rest ih =>
      obtain ⟨inFront, others, foundFirst, collectedRest, rfl⟩ := exists_of_collect_cons collected
      simp [foundFirst, ih collectedRest]

end Collecting

/-- What is found in a directory is reached from it by the names on the way to a place of the
tree. -/
theorem exists_names_of_mem_scriptsIn (searched : scriptsIn tree here home directory = .ok found)
    (member : path ∈ found) :
    ∃ names, path = joinNames directory names ∧
      ∃ entry ∈ tree.nodes, ∀ name ∈ names, name ∈ entry.1 := by
  rw [scriptsIn] at searched
  split_ifs at searched
  · cases searched
    cases member
  · split at searched
    · cases searched
    · dsimp only at searched
      split at searched
      · cases searched
        obtain ⟨⟨names, node⟩, below, kept⟩ := List.mem_filterMap.mp member
        obtain ⟨entry, entryMem, belowEq⟩ := List.mem_filterMap.mp below
        refine ⟨names, ?_, entry, entryMem, fun name inNames => ?_⟩
        · dsimp only at kept
          split at kept
          · split_ifs at kept
            exact (Option.some.inj kept).symm
          · cases kept
        · dsimp only at belowEq
          split_ifs at belowEq
          cases belowEq
          exact List.mem_of_mem_drop inNames
      · cases searched

theorem ne_empty_of_isDirectory (isDirectory : tree.isDirectory here path) : path ≠ "" := by
  rintro rfl
  simp [FileTree.isDirectory, FileTree.find?, FileTree.arrive, Except.toOption] at isDirectory

theorem join_ne_empty {base child : String} (filled : base ≠ "") (relative : ¬isAbsolute child) :
    join base child ≠ "" := by
  rw [join, if_neg relative]
  split <;> simp [filled]

theorem beginsHere_joinNames {names : List String} (filled : directory ≠ "")
    (noSlash : ∀ name ∈ names, '/' ∉ name.toList) :
    BeginsHere (joinNames directory names) ↔ BeginsHere directory := by
  induction names generalizing directory with
  | nil => rfl
  | cons name rest ih =>
      have relative : ¬isAbsolute name := fun absolute =>
        noSlash name List.mem_cons_self (List.mem_of_head? (isAbsolute_iff.mp absolute))
      have step := ih (join_ne_empty filled relative) fun other inRest =>
        noSlash other (List.mem_cons_of_mem name inRest)
      rw [joinNames, List.foldl_cons]
      refine step.trans ?_
      rw [BeginsHere, BeginsHere, parts_join filled relative, List.head?_append,
        Option.or_of_isSome (List.isSome_head?.mpr (parts_ne_nil filled))]

/-- What is discovered are the collected paths, in order. -/
theorem exists_collect_of_discover {search : String → Except DiscoveryError (List String)}
    (finds : discover tree here search paths = .ok found) :
    ∃ all, collect tree here search paths = .ok all ∧ found = sortPaths all := by
  rw [discover] at finds
  cases collected : collect tree here search paths with
  | error failure =>
      rw [collected] at finds
      cases finds
  | ok all =>
      rw [collected] at finds
      cases finds
      exact ⟨all, rfl, rfl⟩

/-- What is found by way of a given path is among the scripts, and nothing else is. -/
theorem mem_scripts (finds : scripts tree here home paths = .ok found) :
    (∀ path ∈ found, ∃ given ∈ paths, FoundBy tree here (scriptsIn tree here home) given path) ∧
      ∀ given ∈ paths, ∀ path, FoundBy tree here (scriptsIn tree here home) given path →
        ∃ kept ∈ found, parts kept = parts path := by
  obtain ⟨all, collected, rfl⟩ := exists_collect_of_discover finds
  refine ⟨fun path member => (mem_collect_iff collected).mp (mem_of_mem_sortPaths member), ?_⟩
  intro given givenMem path foundBy
  exact exists_mem_sortPaths ((mem_collect_iff collected).mpr ⟨given, givenMem, foundBy⟩)

theorem scripts_ascending (finds : scripts tree here home paths = .ok found) :
    found.Pairwise fun left right => order left right = .lt := by
  obtain ⟨all, -, rfl⟩ := exists_collect_of_discover finds
  exact sortPaths_ascending all

/-- A path that is found begins with the dot just when the given path does that it comes from. -/
theorem exists_given_beginsHere (noSlash : tree.NamesHoldNoSlash)
    (finds : scripts tree here home paths = .ok found) (member : path ∈ found) :
    ∃ given ∈ paths, BeginsHere path ↔ BeginsHere given := by
  obtain ⟨all, collected, rfl⟩ := exists_collect_of_discover finds
  obtain ⟨given, givenMem, ⟨rfl, -⟩ | ⟨isDirectory, inside, searched, inInside⟩⟩ :=
    (mem_collect_iff collected).mp (mem_of_mem_sortPaths member)
  · exact ⟨given, givenMem, Iff.rfl⟩
  · obtain ⟨names, rfl, entry, entryMem, onTheWay⟩ :=
      exists_names_of_mem_scriptsIn searched inInside
    refine ⟨given, givenMem, beginsHere_joinNames (ne_empty_of_isDirectory isDirectory) ?_⟩
    exact fun name inNames => noSlash entry entryMem name (onTheWay name inNames)

/-- Whether all paths begin with the dot, or none does. -/
def SpelledAlike (paths : List String) : Prop :=
  (∀ path ∈ paths, BeginsHere path) ∨ ∀ path ∈ paths, ¬BeginsHere path

theorem SpelledAlike.scripts (alike : SpelledAlike paths) (noSlash : tree.NamesHoldNoSlash)
    (finds : scripts tree here home paths = .ok found) : SpelledAlike found := by
  refine alike.imp (fun dotted path member => ?_) (fun undotted path member => ?_)
  · obtain ⟨given, givenMem, sameStart⟩ := exists_given_beginsHere noSlash finds member
    exact sameStart.mpr (dotted given givenMem)
  · obtain ⟨given, givenMem, sameStart⟩ := exists_given_beginsHere noSlash finds member
    exact mt sameStart.mp (undotted given givenMem)

/-- A file is found a second time only by a path that begins with the dot where the first one does
not, or the other way round. -/
theorem scripts_repeat_across_dot (finds : scripts tree here home paths = .ok found) :
    found.Pairwise fun left right =>
      partsBehindDot left = partsBehindDot right → ¬(BeginsHere left ↔ BeginsHere right) :=
  (scripts_ascending finds).imp fun before same alike =>
    parts_ne_of_order_lt before (parts_eq_of_partsBehindDot_eq same alike)

/-- Paths that are spelled alike find no file twice. -/
theorem SpelledAlike.pairwise_ne (alike : SpelledAlike paths) (noSlash : tree.NamesHoldNoSlash)
    (finds : Discovery.scripts tree here home paths = .ok found) :
    found.Pairwise fun left right => partsBehindDot left ≠ partsBehindDot right := by
  refine (scripts_repeat_across_dot finds).imp_of_mem
    fun {left right} leftMem rightMem different same => different same ?_
  rcases alike.scripts noSlash finds with dotted | undotted
  · exact iff_of_true (dotted left leftMem) (dotted right rightMem)
  · exact iff_of_false (undotted left leftMem) (undotted right rightMem)

end Discovery

namespace Check

variable {engine : Engine} {store : CacheStore} {readText : String → Except FileError String}
variable {surroundings : Surroundings} {options : Options} {project : Project}
variable {files : List String} {catalog : Catalog} {reports : List FileReport}

theorem map_path_of_checkFiles
    (checked : checkFiles engine store readText files catalog = .ok reports) :
    reports.map FileReport.path = files := by
  induction files generalizing catalog reports with
  | nil =>
      cases checked
      rfl
  | cons path rest ih =>
      rw [checkFiles] at checked
      split at checked
      · cases checked
      · rename_i source read
        dsimp only at checked
        cases later : checkFiles engine store readText rest
            (engine.checkSource store source catalog).2 with
        | error failure =>
            rw [later] at checked
            cases checked
        | ok others =>
            rw [later] at checked
            cases checked
            rw [List.map_cons, ih later]

/-- The paths whose scripts are checked. -/
def roots (options : Options) (project : Project) : List String :=
  if options.paths.isEmpty then [project.directory] else options.paths

/-- A check that is completed reports the scripts that are found, each of them once. -/
theorem scripts_of_reports
    (completed : (checkProject surroundings options project store).reports = .ok reports) :
    Discovery.scripts surroundings.files surroundings.here surroundings.home
      (roots options project) = .ok (reports.map FileReport.path) := by
  rw [checkProject] at completed
  dsimp only at completed
  split at completed
  · cases completed
  · rename_i files finds
    rw [map_path_of_checkFiles completed]
    exact finds

/-- A check reports every script that is found as it is reported alone. -/
theorem reports_checkProject (surroundings : Surroundings) (options : Options)
    (project : Project) (store : CacheStore)
    (finds : Discovery.scripts surroundings.files surroundings.here surroundings.home
      (roots options project) = .ok files) :
    (checkProject surroundings options project store).reports =
      files.mapM (reportAlone
        (.ofSettings (project.settings.lint.overriddenBy options.allow options.deny)) store
        (surroundings.files.readText surroundings.here)) := by
  rw [roots] at finds
  rw [checkProject, finds]
  exact checkFiles_eq_mapM _ _ _ _ _ (Catalog.unloaded.tableNamed_warm store)

end Check

namespace Discovery

/-- Every file that is given or found in a given directory is among the scripts.  Two of them that
differ in single dots at most are one with a dot at its front and one without it.  So among paths
that all begin with the dot, or none of which does, no file is found twice, and a check reports each
script once. -/
theorem scripts_found_once (surroundings : Surroundings) (paths : List String) :
    let tree := surroundings.files
    let search := scriptsIn tree surroundings.here surroundings.home
    let finds := fun found => scripts tree surroundings.here surroundings.home paths = .ok found
    (∀ found, finds found →
        (∀ given ∈ paths, ∀ path, FoundBy tree surroundings.here search given path →
          ∃ kept ∈ found, parts kept = parts path) ∧
        found.Pairwise fun left right => parts left ≠ parts right ∧
          (partsBehindDot left = partsBehindDot right →
            ¬(BeginsHere left ↔ BeginsHere right))) ∧
      (tree.NamesHoldNoSlash → SpelledAlike paths →
        (∀ found, finds found →
          found.Pairwise fun left right => partsBehindDot left ≠ partsBehindDot right) ∧
        ∀ options project store reports, Check.roots options project = paths →
          (Check.checkProject surroundings options project store).reports = .ok reports →
          finds (reports.map Check.FileReport.path) ∧
            reports.Pairwise fun left right =>
              partsBehindDot left.path ≠ partsBehindDot right.path) := by
  intro tree search finds
  refine ⟨fun found foundAll => ⟨(mem_scripts foundAll).2, ?_⟩,
    fun noSlash alike => ⟨fun found foundAll => alike.pairwise_ne noSlash foundAll, ?_⟩⟩
  · have different := (scripts_ascending foundAll).imp parts_ne_of_order_lt
    exact different.and (scripts_repeat_across_dot foundAll)
  · rintro options project store reports rfl completed
    have foundAll := Check.scripts_of_reports completed
    have different := alike.pairwise_ne noSlash foundAll
    rw [List.pairwise_map] at different
    exact ⟨foundAll, different⟩

/-- A tree with two scripts, of which the second one is empty. -/
def twoScripts (first : String) : FileTree :=
  ⟨[(["a.nut"], .file first.toUTF8), (["b.nut"], .file "".toUTF8)]⟩

theorem find?_twoScripts (first : String) :
    (twoScripts first).find? [] "a.nut" = some (.file first.toUTF8) ∧
      (twoScripts first).find? [] "./a.nut" = some (.file first.toUTF8) ∧
      (twoScripts first).find? [] "b.nut" = some (.file "".toUTF8) := by
  have cut : segments "a.nut" = ["a.nut"] ∧ segments "./a.nut" = [".", "a.nut"] ∧
      segments "b.nut" = ["b.nut"] :=
    ⟨rfl, rfl, rfl⟩
  have relative : isAbsolute "a.nut" = false ∧ isAbsolute "./a.nut" = false ∧
      isAbsolute "b.nut" = false := by
    simp [isAbsolute]
  simp [FileTree.find?, FileTree.arrive, cut, relative, FileTree.follow, FileTree.node?,
    twoScripts, isFiller, Except.toOption, List.lookup_cons]

/-- Scripts of the tree that are named in ascending order are found as they are named. -/
theorem scripts_twoScripts (first : String)
    (names : ∀ path ∈ paths, path = "a.nut" ∨ path = "./a.nut" ∨ path = "b.nut")
    (ascending : paths.Pairwise fun left right => order left right = .lt) :
    scripts (twoScripts first) [] "" paths = .ok paths := by
  obtain ⟨known, dotted, other⟩ := find?_twoScripts first
  have collected : collect (twoScripts first) [] (scriptsIn (twoScripts first) [] "") paths =
      .ok paths := by
    clear ascending
    induction paths with
    | nil => rfl
    | cons path rest ih =>
        rw [collect, ih fun other inRest => names other (List.mem_cons_of_mem path inRest)]
        rcases names path List.mem_cons_self with rfl | rfl | rfl
        · simp [FileTree.isDirectory, FileTree.isFile, known, Except.map]
        · simp [FileTree.isDirectory, FileTree.isFile, dotted, Except.map]
        · simp [FileTree.isDirectory, FileTree.isFile, other, Except.map]
  rw [scripts, discover, collected, Except.map, sortPaths_of_ascending ascending]

theorem scripts_found_once_twoScripts :
    (twoScripts "").NamesHoldNoSlash ∧ SpelledAlike ["a.nut", "b.nut"] ∧
      scripts (twoScripts "") [] "" ["a.nut", "b.nut"] = .ok ["a.nut", "b.nut"] ∧
      ["a.nut", "b.nut"].Pairwise fun left right =>
        partsBehindDot left ≠ partsBehindDot right := by
  have noSlash : (twoScripts "").NamesHoldNoSlash := by
    intro entry member
    simp only [twoScripts, List.mem_cons, List.not_mem_nil, or_false] at member
    rcases member with rfl | rfl <;> decide
  have alike : SpelledAlike ["a.nut", "b.nut"] := by
    refine .inr fun path member => ?_
    simp only [List.mem_cons, List.not_mem_nil, or_false] at member
    rcases member with rfl | rfl <;> rw [BeginsHere] <;> decide +kernel
  have finds : scripts (twoScripts "") [] "" ["a.nut", "b.nut"] = .ok ["a.nut", "b.nut"] :=
    scripts_twoScripts "" (by simp) (by decide +kernel)
  have once := scripts_found_once ⟨twoScripts "", [], "", none⟩ ["a.nut", "b.nut"]
  exact ⟨noSlash, alike, finds, (once.2 noSlash alike).1 _ finds⟩

/-- A script that is named with the dot and without it is found twice. -/
theorem scripts_find_one_file_twice :
    ¬∀ (surroundings : Surroundings) (paths found : List String),
      scripts surroundings.files surroundings.here surroundings.home paths = .ok found →
      found.Pairwise fun left right => partsBehindDot left ≠ partsBehindDot right := by
  intro never
  have finds : scripts (twoScripts "") [] "" ["./a.nut", "a.nut"] = .ok ["./a.nut", "a.nut"] :=
    scripts_twoScripts "" (by simp) (by decide +kernel)
  have different := never ⟨twoScripts "", [], "", none⟩ _ _ finds
  have same : partsBehindDot "./a.nut" = partsBehindDot "a.nut" := by decide +kernel
  exact (List.pairwise_cons.mp different).1 "a.nut" List.mem_cons_self same

end Discovery

end ScriptLint
