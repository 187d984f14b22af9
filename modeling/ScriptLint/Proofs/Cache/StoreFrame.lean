import Mathlib.Tactic.Common
import ScriptLint.Cache.Store

/-!
# What reading and writing a store touch

A store is seen through what each name in its directory leads to, and through whether the directory
can be had at all.  Reading an entry depends on the name of its file alone.  Writing one either
fails, or puts the text of the entry under that name and leaves every other name as it was.
-/

namespace ScriptLint

namespace CacheDirectory

variable {cache created : CacheDirectory} {name other : String} {content : ByteArray}

/-- Whether the path of the directory is taken by a plain file. -/
def isBlocked : CacheDirectory → Bool
  | blocked => true
  | absent | present _ => false

theorem lookup_cons_eq_ite (name other : String) (node : CacheNode)
    (nodes : List (String × CacheNode)) :
    ((name, node) :: nodes).lookup other =
      if other = name then some node else nodes.lookup other := by
  rw [List.lookup_cons]
  by_cases same : other = name
  · simp [same]
  · rw [beq_false_of_ne same, if_neg same]

theorem lookup_setNode (name other : String) (node : CacheNode)
    (nodes : List (String × CacheNode)) :
    (setNode name node nodes).lookup other =
      if other = name then some node else nodes.lookup other := by
  induction nodes with
  | nil => rw [setNode, lookup_cons_eq_ite]
  | cons first rest ih =>
      obtain ⟨known, kept⟩ := first
      rw [setNode]
      by_cases atFirst : known = name
      · subst atFirst
        rw [if_pos rfl, lookup_cons_eq_ite, lookup_cons_eq_ite]
        split_ifs <;> rfl
      · rw [if_neg atFirst, lookup_cons_eq_ite, lookup_cons_eq_ite, ih]
        by_cases same : other = known
        · subst same
          simp [atFirst]
        · simp [same]

theorem mem_map_fst_setNode {node : CacheNode} {nodes : List (String × CacheNode)} :
    other ∈ (setNode name node nodes).map Prod.fst ↔
      other = name ∨ other ∈ nodes.map Prod.fst := by
  induction nodes with
  | nil => simp [setNode]
  | cons first rest ih =>
      obtain ⟨known, kept⟩ := first
      rw [setNode]
      split_ifs with atFirst
      · subst atFirst
        simp
      · simp only [List.map_cons, List.mem_cons, ih]
        tauto

/-- Making the directory fails only when its path is taken. -/
theorem create_isOk (cache : CacheDirectory) : cache.create.isOk = !cache.isBlocked := by
  cases cache <;> rfl

theorem node?_of_create (made : cache.create = .ok created) :
    created.node? name = cache.node? name := by
  cases cache <;> cases made <;> rfl

theorem names_of_create (made : cache.create = .ok created) : created.names = cache.names := by
  cases cache <;> cases made <;> rfl

theorem readText_toOption (cache : CacheDirectory) (name : String) :
    (cache.readText name).toOption =
      (cache.node? name).bind fun
        | .file content => String.fromUTF8? content
        | .directory => none := by
  cases cache with
  | absent => rfl
  | blocked => rfl
  | present nodes =>
      rw [readText, node?]
      cases nodes.lookup name with
      | none => rfl
      | some node =>
          cases node with
          | directory => rfl
          | file content => cases read : String.fromUTF8? content <;> simp [read, Except.toOption]

/-- Whether a file can be written under a name. -/
def accepts (cache : CacheDirectory) (name : String) : Bool :=
  !cache.isBlocked && !name.contains '/' &&
    match cache.node? name with
    | some .directory => false
    | some (.file _) | none => true

theorem accepts_of_create (made : cache.create = .ok created) :
    created.accepts name = cache.accepts name := by
  cases cache <;> cases made <;> rfl

/-- Writing into a directory that has been made succeeds when the name can be written. -/
theorem isOk_writeFile_of_create (content : ByteArray) (made : cache.create = .ok created) :
    (created.writeFile name content).isOk = cache.accepts name := by
  obtain ⟨nodes, rfl⟩ : ∃ nodes, created = present nodes := by
    cases cache <;> cases made <;> exact ⟨_, rfl⟩
  rw [← accepts_of_create made, writeFile, accepts, node?]
  cases nodes.lookup name with
  | none => cases slashed : name.contains '/' <;> simp [Except.isOk, Except.toBool, isBlocked]
  | some node =>
      cases node with
      | directory => simp [Except.isOk, Except.toBool]
      | file _ => cases slashed : name.contains '/' <;> simp [Except.isOk, Except.toBool, isBlocked]

theorem writeFile_eq_ok {written : CacheDirectory}
    (success : cache.writeFile name content = .ok written) :
    ∃ nodes, cache = present nodes ∧ written = present (setNode name (.file content) nodes) := by
  cases cache with
  | absent => cases success
  | blocked => cases success
  | present nodes =>
      rw [writeFile] at success
      split at success
      · cases success
      · split_ifs at success
        cases success
        exact ⟨nodes, rfl, rfl⟩

end CacheDirectory

namespace CacheStore

variable {store written : CacheStore} {className other : String} {entry : CacheEntry}

/-- What the file of a class leads to. -/
def node? (store : CacheStore) (className : String) : Option CacheNode :=
  store.directory.node? (CacheDirectory.fileName className)

/-- The entry that a node of the directory holds for a class. -/
def entryOfNode? (className : String) : CacheNode → Option CacheEntry
  | .file content => (String.fromUTF8? content).bind (CacheEntry.ofFileText? className)
  | .directory => none

/-- Reading an entry depends only on what the file of the class leads to. -/
theorem read?_eq (store : CacheStore) (className : String) :
    store.read? className = (store.node? className).bind (entryOfNode? className) := by
  have textEq := CacheDirectory.readText_toOption store.directory
    (CacheDirectory.fileName className)
  have decoded : store.read? className =
      ((store.directory.readText (CacheDirectory.fileName className)).toOption).bind
        (CacheEntry.ofFileText? className) := by
    rw [read?, tryRead]
    cases store.directory.readText (CacheDirectory.fileName className) with
    | error cause => rfl
    | ok text =>
        cases found : CacheEntry.ofFileText? className text <;> simp [Except.toOption, found]
  rw [decoded, textEq, node?, Option.bind_assoc]
  congr 1
  funext node
  cases node <;> rfl

/-- Whether the file of a class can be written. -/
def accepts (store : CacheStore) (className : String) : Bool :=
  store.directory.accepts (CacheDirectory.fileName className)

theorem isOk_write (store : CacheStore) (className : String) (entry : CacheEntry) :
    (store.write className entry).isOk = store.accepts className := by
  rw [write, create, accepts]
  cases made : store.directory.create with
  | error cause =>
      have blocked : store.directory.isBlocked = true := by
        have failed := store.directory.create_isOk
        rw [made] at failed
        simpa [Except.isOk, Except.toBool] using failed.symm
      simp [CacheDirectory.accepts, blocked, Except.isOk, Except.toBool]
  | ok created =>
      rw [← CacheDirectory.isOk_writeFile_of_create entry.fileText.toUTF8 made]
      dsimp only
      cases created.writeFile (CacheDirectory.fileName className) entry.fileText.toUTF8 <;> rfl

/-- A successful write makes the directory and puts the text of the entry into one file of it. -/
theorem write_eq_ok (success : store.write className entry = .ok written) :
    ∃ created nodes, store.directory.create = .ok created ∧ created = .present nodes ∧
      written = { store with
        directory := .present (CacheDirectory.setNode (CacheDirectory.fileName className)
          (.file entry.fileText.toUTF8) nodes) } := by
  rw [write, create] at success
  split at success
  · cases success
  · rename_i made
    split at made
    · rename_i created directoryMade
      cases made
      dsimp only at success
      split at success
      · rename_i writtenDirectory fileWritten
        cases success
        obtain ⟨nodes, rfl, rfl⟩ := CacheDirectory.writeFile_eq_ok fileWritten
        exact ⟨_, nodes, directoryMade, rfl, rfl⟩
      · cases success
    · cases made

theorem node?_of_write (success : store.write className entry = .ok written) (other : String) :
    written.node? other =
      if other = className then some (.file entry.fileText.toUTF8) else store.node? other := by
  obtain ⟨created, nodes, made, rfl, rfl⟩ := write_eq_ok success
  rw [node?, CacheDirectory.node?, CacheDirectory.lookup_setNode]
  by_cases same : other = className
  · rw [if_pos same, if_pos (congrArg CacheDirectory.fileName same)]
  · have different : CacheDirectory.fileName other ≠ CacheDirectory.fileName className := by
      intro equal
      exact same ((String.append_left_inj ".json").mp equal)
    rw [if_neg same, if_neg different, node?, ← CacheDirectory.node?_of_create made]
    rfl

theorem mem_names_of_write (success : store.write className entry = .ok written) (name : String) :
    name ∈ written.directory.names ↔
      name = CacheDirectory.fileName className ∨ name ∈ store.directory.names := by
  obtain ⟨created, nodes, made, rfl, rfl⟩ := write_eq_ok success
  rw [← CacheDirectory.names_of_create made]
  exact CacheDirectory.mem_map_fst_setNode

/-- A directory that has been written into was not taken by a plain file. -/
theorem isBlocked_of_write (success : store.write className entry = .ok written) :
    store.directory.isBlocked = false ∧ written.directory.isBlocked = false := by
  obtain ⟨created, nodes, made, rfl, rfl⟩ := write_eq_ok success
  refine ⟨?_, rfl⟩
  have succeeded := store.directory.create_isOk
  rw [made] at succeeded
  simpa [Except.isOk, Except.toBool] using succeeded.symm

/-- Two stores that are the same as far as one class can tell: its file, and whether the directory
can be had. -/
structure AgreeOn (first second : CacheStore) (className : String) : Prop where
  blocked_eq : first.directory.isBlocked = second.directory.isBlocked
  node_eq : first.node? className = second.node? className

namespace AgreeOn

variable {first second third : CacheStore}

theorem refl (store : CacheStore) (className : String) : store.AgreeOn store className :=
  ⟨rfl, rfl⟩

theorem trans (agree : first.AgreeOn second className) (also : second.AgreeOn third className) :
    first.AgreeOn third className :=
  ⟨agree.blocked_eq.trans also.blocked_eq, agree.node_eq.trans also.node_eq⟩

theorem readUsable?_eq (agree : first.AgreeOn second className) :
    first.readUsable? className = second.readUsable? className := by
  rw [readUsable?, readUsable?, read?_eq, read?_eq, agree.node_eq]

theorem accepts_eq (agree : first.AgreeOn second className) :
    first.accepts className = second.accepts className := by
  have nodeEq := agree.node_eq
  rw [node?, node?] at nodeEq
  rw [accepts, accepts, CacheDirectory.accepts, CacheDirectory.accepts, agree.blocked_eq, nodeEq]

end AgreeOn

/-- A file that could be written can be written again when a file is in its place. -/
theorem accepts_of_isFile {content : ByteArray} (accepted : store.accepts className = true)
    (blockedEq : written.directory.isBlocked = store.directory.isBlocked)
    (isFile : written.node? className = some (.file content)) :
    written.accepts className = true := by
  rw [node?] at isFile
  rw [accepts, CacheDirectory.accepts] at accepted ⊢
  rw [isFile, blockedEq]
  simp only [Bool.and_eq_true] at accepted ⊢
  exact ⟨accepted.1, trivial⟩

end CacheStore

end ScriptLint
