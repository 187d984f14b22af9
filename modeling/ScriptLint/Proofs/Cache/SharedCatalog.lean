import Mathlib.Logic.Function.Basic
import ScriptLint.Proofs.Cache.LookUpSteps
import ScriptLint.Proofs.Cache.StoreFrame

/-!
# Sharing a catalog

Workers that share a catalog make their steps in any order, and meanwhile the files may be written
and deleted by others.  Whatever the order, the first table that is put into the catalog for a
class stays there, and every look-up of the class that gives a table gives this one.
-/

namespace ScriptLint

theorem CacheStore.isEmpty_of_readMethods? {store : CacheStore} {className : String}
    {table : MethodTable} (stored : store.readMethods? className = some table) :
    table.isEmpty = false := by
  obtain ⟨entry, found, rfl⟩ := Option.map_eq_some_iff.mp stored
  obtain ⟨-, usable⟩ := Option.filter_eq_some_iff.mp found
  simpa [CacheEntry.isUsable] using usable

/-- A catalog over a store, and those who look classes up in it. -/
structure SharedCatalog (ι α : Type) where
  catalog : Catalog
  store : CacheStore
  workers : ι → Worker α

namespace SharedCatalog

/-- What can happen next. -/
inductive Move (ι : Type) where
  | step (worker : ι)
  /-- Someone else writes or deletes files. -/
  | change (directory : CacheDirectory)

variable {ι α : Type} [DecidableEq ι]

def after (shared : SharedCatalog ι α) : Move ι → SharedCatalog ι α
  | .step worker =>
    let (later, catalog) := (shared.workers worker).step shared.store shared.catalog
    { shared with catalog, workers := Function.update shared.workers worker later }
  | .change directory => { shared with store := { shared.store with directory } }

def answer? (shared : SharedCatalog ι α) : Move ι → Option (String × Option MethodTable)
  | .step worker => (shared.workers worker).answer? shared.store shared.catalog
  | .change _ => none

def IsAt (shared : SharedCatalog ι α) (worker : ι) (className : String) (stage : LookUpStage) :
    Prop :=
  ∃ proceed, shared.workers worker = .asking className stage proceed

variable {shared : SharedCatalog ι α} {move : Move ι} {worker : ι}
variable {className : String} {trackedClass : TrackedClass} {table : MethodTable}

theorem steps_of_step (shared : SharedCatalog ι α) (worker : ι) :
    Worker.Steps shared.store shared.catalog (shared.workers worker)
      ((shared.after (.step worker)).workers worker) (shared.after (.step worker)).catalog
      (shared.answer? (.step worker)) := by
  simpa [after, answer?] using
    (shared.workers worker).steps shared.store shared.catalog

theorem workers_after_of_ne (other : move ≠ .step worker) :
    (shared.after move).workers worker = shared.workers worker := by
  cases move with
  | change directory => rfl
  | step mover =>
      have apart : worker ≠ mover := by
        rintro rfl
        exact other rfl
      simp [after, apart]

theorem loaded_after (kept : shared.catalog.loaded trackedClass = some table) :
    (shared.after move).catalog.loaded trackedClass = some table := by
  cases move with
  | change directory => exact kept
  | step mover => exact (shared.steps_of_step mover).loaded_of_loaded kept

/-- A table that a move puts into the catalog was held by the worker that made the move. -/
theorem of_loaded_after (kept : (shared.after move).catalog.loaded trackedClass = some table) :
    shared.catalog.loaded trackedClass = some table ∨
      ∃ worker, shared.IsAt worker trackedClass.name (.holding table) := by
  cases move with
  | change directory => exact .inl kept
  | step mover =>
      rcases (shared.steps_of_step mover).of_loaded kept with before | ⟨proceed, held⟩
      · exact .inl before
      · exact .inr ⟨mover, proceed, held⟩

/-- A look-up that has begun and goes on after a move was so before, or has missed or read in this
move. -/
theorem of_isAt_after {stage : LookUpStage} (begun : stage ≠ .beginning)
    (isAt : (shared.after move).IsAt worker className stage) :
    shared.IsAt worker className stage ∨
      move = .step worker ∧
        (shared.IsAt worker className .beginning ∧ stage = .missed ∨
          ∃ table, shared.IsAt worker className .missed ∧ stage = .holding table ∧
            shared.store.readMethods? className = some table) := by
  obtain ⟨proceed, asks⟩ := isAt
  by_cases moves : move = .step worker
  · subst moves
    rcases (shared.steps_of_step worker).of_asking asks begun with
      ⟨began, rfl⟩ | ⟨table, missed, rfl, stored⟩
    · exact .inr ⟨rfl, .inl ⟨⟨proceed, began⟩, rfl⟩⟩
    · exact .inr ⟨rfl, .inr ⟨table, ⟨proceed, missed⟩, rfl, stored⟩⟩
  · rw [workers_after_of_ne moves] at asks
    exact .inl ⟨proceed, asks⟩

omit [DecidableEq ι] in
theorem IsAt.stage_eq {first second : LookUpStage} {other : String}
    (isAt : shared.IsAt worker className first) (isAlsoAt : shared.IsAt worker other second) :
    first = second := by
  obtain ⟨proceed, asks⟩ := isAt
  obtain ⟨next, alsoAsks⟩ := isAlsoAt
  rw [asks] at alsoAsks
  injection alsoAsks

end SharedCatalog

/-- What happens to a catalog that is shared: how it begins, what each worker is to do, and the
moves that are made one after the other. -/
structure CatalogHistory (ι α : Type) where
  catalog : Catalog
  store : CacheStore
  lookUps : ι → LookUps α
  moves : Nat → SharedCatalog.Move ι

namespace CatalogHistory

variable {ι α : Type} [DecidableEq ι]

def state (history : CatalogHistory ι α) : Nat → SharedCatalog ι α
  | 0 => ⟨history.catalog, history.store, fun worker => .ofLookUps (history.lookUps worker)⟩
  | time + 1 => (history.state time).after (history.moves time)

def answer? (history : CatalogHistory ι α) (time : Nat) : Option (String × Option MethodTable) :=
  (history.state time).answer? (history.moves time)

/-- A worker makes the first step of a look-up. -/
def Begins (history : CatalogHistory ι α) (worker : ι) (className : String) (time : Nat) : Prop :=
  history.moves time = .step worker ∧ (history.state time).IsAt worker className .beginning

/-- A look-up of a worker reads a table in the file of a class. -/
def Reads (history : CatalogHistory ι α) (className : String) (table : MethodTable)
    (time : Nat) : Prop :=
  ∃ worker, history.moves time = .step worker ∧ (history.state time).IsAt worker className .missed ∧
    (history.state time).store.readMethods? className = some table

/-- A table has been read in the file of a class before some time. -/
def WasRead (history : CatalogHistory ι α) (className : String) (table : MethodTable)
    (time : Nat) : Prop :=
  ∃ earlier < time, history.Reads className table earlier

/-- A worker is in the middle of a look-up from the move behind one time up to another. -/
def IsUnderway (history : CatalogHistory ι α) (worker : ι) (className : String)
    (first last : Nat) : Prop :=
  ∀ time, first < time → time ≤ last → ∃ stage, stage ≠ LookUpStage.beginning ∧
    (history.state time).IsAt worker className stage

/-- A look-up that a worker makes, from the first step to the step that answers. -/
structure LooksUp (history : CatalogHistory ι α) (worker : ι) (className : String)
    (first last : Nat) (answer : Option MethodTable) : Prop where
  begins : history.Begins worker className first
  first_le_last : first ≤ last
  underway : history.IsUnderway worker className first last
  moves_last : history.moves last = .step worker
  answers : history.answer? last = some (className, answer)

variable {history : CatalogHistory ι α} {worker : ι} {className : String}
variable {trackedClass : TrackedClass} {table other : MethodTable} {time first last later : Nat}
variable {answer : Option MethodTable}

theorem loaded_of_le (order : time ≤ later)
    (kept : (history.state time).catalog.loaded trackedClass = some table) :
    (history.state later).catalog.loaded trackedClass = some table := by
  induction order with
  | refl => exact kept
  | step order ih => exact SharedCatalog.loaded_after ih

theorem WasRead.succ (was : history.WasRead className table time) :
    history.WasRead className table (time + 1) := by
  obtain ⟨earlier, before, reads⟩ := was
  exact ⟨earlier, Nat.lt_succ_of_lt before, reads⟩

/-- A table that a worker holds has been read in the file of the class. -/
theorem wasRead_of_holding (holds : (history.state time).IsAt worker className (.holding table)) :
    history.WasRead className table time := by
  induction time with
  | zero =>
      obtain ⟨proceed, holds⟩ := holds
      exact absurd holds.symm (Worker.asking_ne_ofLookUps (by simp))
  | succ time ih =>
      rcases SharedCatalog.of_isAt_after (by simp) holds with
        before | ⟨moved, ⟨-, same⟩ | ⟨read, missed, same, stored⟩⟩
      · exact (ih before).succ
      · cases same
      · cases same
        exact ⟨time, Nat.lt_succ_self time, worker, moved, missed, stored⟩

/-- A table in the catalog was there at the beginning, or has been read in the file of its class. -/
theorem wasRead_of_loaded
    (kept : (history.state time).catalog.loaded trackedClass = some table) :
    history.catalog.loaded trackedClass = some table ∨
      history.WasRead trackedClass.name table time := by
  induction time with
  | zero => exact .inl kept
  | succ time ih =>
      rcases SharedCatalog.of_loaded_after kept with before | ⟨worker, held⟩
      · exact (ih before).imp_right WasRead.succ
      · exact .inr (wasRead_of_holding held).succ

theorem exists_moves_of_answer? {given : String × Option MethodTable}
    (answers : history.answer? time = some given) :
    ∃ worker, history.moves time = .step worker := by
  cases moves : history.moves time with
  | step worker => exact ⟨worker, rfl⟩
  | change directory =>
      rw [answer?, moves] at answers
      cases answers

theorem steps_of_moves (moves : history.moves time = .step worker) :
    Worker.Steps (history.state time).store (history.state time).catalog
      ((history.state time).workers worker) ((history.state (time + 1)).workers worker)
      (history.state (time + 1)).catalog (history.answer? time) := by
  rw [answer?, state, moves]
  exact SharedCatalog.steps_of_step _ _

theorem loaded_of_answer?
    (answers : history.answer? time = some (trackedClass.name, some table)) :
    (history.state (time + 1)).catalog.loaded trackedClass = some table := by
  obtain ⟨worker, moves⟩ := exists_moves_of_answer? answers
  rcases (steps_of_moves moves).of_answer answers with
    ⟨_, kept, same, unchanged⟩ | ⟨-, same, -⟩ | ⟨_, _, -, same, installed⟩
  · cases same
    rw [unchanged, kept]
  · cases same
  · rw [installed, Catalog.loaded_install_self, same]

/-- A table that is given was in the catalog at the beginning, or has been read in the file of its
class. -/
theorem wasRead_of_answer?
    (answers : history.answer? time = some (trackedClass.name, some table)) :
    history.catalog.loaded trackedClass = some table ∨
      history.WasRead trackedClass.name table time := by
  rcases SharedCatalog.of_loaded_after (loaded_of_answer? answers) with kept | ⟨worker, held⟩
  · exact wasRead_of_loaded kept
  · exact .inr (wasRead_of_holding held)

theorem exists_trackedClass_of_answer?
    (answers : history.answer? time = some (className, some table)) :
    ∃ trackedClass : TrackedClass, trackedClass.name = className := by
  obtain ⟨worker, moves⟩ := exists_moves_of_answer? answers
  cases tracked : TrackedClass.ofName? className with
  | none => cases (steps_of_moves moves).of_untracked answers tracked
  | some trackedClass => exact ⟨trackedClass, TrackedClass.ofName?_eq_some_iff.mp tracked⟩

theorem table_eq_of_answer? (answers : history.answer? first = some (className, some table))
    (answersAgain : history.answer? last = some (className, some other)) : table = other := by
  obtain ⟨trackedClass, rfl⟩ := exists_trackedClass_of_answer? answers
  have kept := loaded_of_answer? answers
  have keptAgain := loaded_of_answer? answersAgain
  rcases Nat.le_total first last with order | order
  · rw [loaded_of_le (Nat.succ_le_succ order) kept] at keptAgain
    exact Option.some.inj keptAgain
  · rw [loaded_of_le (Nat.succ_le_succ order) keptAgain] at kept
    exact (Option.some.inj kept).symm

theorem isUnderway_self : history.IsUnderway worker className time time :=
  fun _ behind upTo => absurd (Nat.lt_of_lt_of_le behind upTo) (Nat.lt_irrefl time)

theorem IsUnderway.succ {stage : LookUpStage} (begun : stage ≠ .beginning)
    (isAt : (history.state (last + 1)).IsAt worker className stage)
    (underway : history.IsUnderway worker className first last) :
    history.IsUnderway worker className first (last + 1) := by
  intro time behind upTo
  rcases Nat.lt_or_eq_of_le upTo with inside | rfl
  · exact underway time behind (Nat.le_of_lt_succ inside)
  · exact ⟨stage, begun, isAt⟩

/-- A look-up that is under way has begun before. -/
theorem exists_begins {stage : LookUpStage} (begun : stage ≠ .beginning)
    (isAt : (history.state time).IsAt worker className stage) :
    ∃ first < time, history.Begins worker className first ∧
      history.IsUnderway worker className first time := by
  induction time generalizing stage with
  | zero =>
      obtain ⟨proceed, asks⟩ := isAt
      exact absurd asks.symm (Worker.asking_ne_ofLookUps begun)
  | succ time ih =>
      -- It was under way before the last move, or has begun or read its file in this move.
      rcases SharedCatalog.of_isAt_after begun isAt with
        before | ⟨moves, ⟨began, -⟩ | ⟨read, missed, -, -⟩⟩
      · obtain ⟨first, order, begins, underway⟩ := ih begun before
        exact ⟨first, Nat.lt_succ_of_lt order, begins, underway.succ begun isAt⟩
      · exact ⟨time, Nat.lt_succ_self time, ⟨moves, began⟩, isUnderway_self.succ begun isAt⟩
      · obtain ⟨first, order, begins, underway⟩ := ih (by simp) missed
        exact ⟨first, Nat.lt_succ_of_lt order, begins, underway.succ begun isAt⟩

/-- Every answer ends a look-up. -/
theorem exists_looksUp_of_answer? (answers : history.answer? last = some (className, answer)) :
    ∃ worker first, history.LooksUp worker className first last answer := by
  obtain ⟨worker, moves⟩ := exists_moves_of_answer? answers
  obtain ⟨stage, proceed, asks, -⟩ := (steps_of_moves moves).of_answered answers
  have isAt : (history.state last).IsAt worker className stage := ⟨proceed, asks⟩
  by_cases begun : stage = .beginning
  · subst begun
    exact ⟨worker, last, ⟨moves, isAt⟩, Nat.le_refl last, isUnderway_self, moves, answers⟩
  · obtain ⟨first, order, begins, underway⟩ := exists_begins begun isAt
    exact ⟨worker, first, begins, Nat.le_of_lt order, underway, moves, answers⟩

theorem answer?_of_begins (kept : (history.state time).catalog.loaded trackedClass = some table)
    (begins : history.Begins worker trackedClass.name time) :
    history.answer? time = some (trackedClass.name, some table) := by
  obtain ⟨moves, proceed, asks⟩ := begins
  exact (steps_of_moves moves).of_beginning asks kept

namespace LooksUp

theorem answer?_eq_none (looksUp : history.LooksUp worker className first last answer)
    (after : first ≤ time) (before : time < last) (moves : history.moves time = .step worker) :
    history.answer? time = none := by
  obtain ⟨stage, begun, proceed, asks⟩ := looksUp.underway (time + 1) (by omega) (by omega)
  cases answers : history.answer? time with
  | none => rfl
  | some given =>
      obtain ⟨_, _, -, done⟩ := (steps_of_moves moves).of_answered answers
      exact absurd (asks.symm.trans done) (Worker.asking_ne_ofLookUps begun)

theorem catalog_eq (looksUp : history.LooksUp worker className first last none)
    (after : first ≤ time) (before : time ≤ last) (moves : history.moves time = .step worker) :
    (history.state (time + 1)).catalog = (history.state time).catalog := by
  refine (steps_of_moves moves).catalog_eq fun name table answers => ?_
  rcases Nat.lt_or_eq_of_le before with inside | rfl
  · rw [looksUp.answer?_eq_none after inside moves] at answers
    cases answers
  · rw [looksUp.answers] at answers
    cases answers

theorem readMethods?_eq_none
    (looksUp : history.LooksUp worker trackedClass.name first last none) :
    (history.state last).store.readMethods? trackedClass.name = none := by
  rcases (steps_of_moves looksUp.moves_last).of_answer looksUp.answers with
    ⟨_, -, same, -⟩ | ⟨lacking, -, -⟩ | ⟨_, _, -, same, -⟩
  · cases same
  · exact lacking
  · cases same

/-- While the file of a class gives a table, a look-up of the class holds no other. -/
theorem held_eq (looksUp : history.LooksUp worker className first last answer)
    (stored : ∀ time, first ≤ time → time ≤ last →
      (history.state time).store.readMethods? className = some table)
    (after : first < time) (before : time ≤ last)
    (holds : (history.state time).IsAt worker className (.holding other)) : other = table := by
  induction time with
  | zero => omega
  | succ time ih =>
      rcases SharedCatalog.of_isAt_after (by simp) holds with
        earlier | ⟨-, ⟨-, same⟩ | ⟨read, -, same, found⟩⟩
      · by_cases began : first = time
        · subst began
          cases looksUp.begins.2.stage_eq earlier
        · exact ih (by omega) (by omega) earlier
      · cases same
      · cases same
        rw [stored time (by omega) (by omega)] at found
        exact (Option.some.inj found).symm

/-- While the file of a class gives a table, no look-up of the class misses it. -/
theorem answer_eq (looksUp : history.LooksUp worker trackedClass.name first last answer)
    (stored : ∀ time, first ≤ time → time ≤ last →
      (history.state time).store.readMethods? trackedClass.name = some table) :
    answer = some (((history.state last).catalog.loaded trackedClass).getD table) := by
  rcases (steps_of_moves looksUp.moves_last).of_answer looksUp.answers with
    ⟨_, kept, rfl, -⟩ | ⟨lacking, -, -⟩ | ⟨read, proceed, held, rfl, -⟩
  · rw [kept, Option.getD_some]
  · rw [stored last looksUp.first_le_last (Nat.le_refl last)] at lacking
    cases lacking
  · have begun : first < last := by
      refine Nat.lt_of_le_of_ne looksUp.first_le_last ?_
      rintro rfl
      cases looksUp.begins.2.stage_eq ⟨proceed, held⟩
    rw [looksUp.held_eq stored begun (Nat.le_refl last) ⟨proceed, held⟩]

end LooksUp

/-- In a history that begins with an empty catalog every class is given one table at most. -/
structure IsWriteOnce (history : CatalogHistory ι α) : Prop where
  /-- All tables that are given for a class are the same one. -/
  agrees : ∀ first last className table other,
    history.answer? first = some (className, some table) →
    history.answer? last = some (className, some other) → table = other
  /-- A table that is given has methods, and some look-up has read it in the file of the class. -/
  isRead : ∀ time className table, history.answer? time = some (className, some table) →
    table.isEmpty = false ∧ history.WasRead className table time
  /-- A table that is given stands in the catalog from then on. -/
  isKept : ∀ time (trackedClass : TrackedClass) table,
    history.answer? time = some (trackedClass.name, some table) →
    (history.state (time + 1)).catalog.loaded trackedClass = some table
  /-- A table that stands in the catalog stays there, and every look-up of its class that begins
  afterwards gives it at once. -/
  stays : ∀ time later trackedClass table,
    (history.state time).catalog.loaded trackedClass = some table → time ≤ later →
    (history.state later).catalog.loaded trackedClass = some table ∧
      ∀ worker, history.Begins worker trackedClass.name later →
        history.answer? later = some (trackedClass.name, some table)
  /-- A look-up that gives nothing has found nothing in the file, and changes nothing. -/
  misses : ∀ worker (trackedClass : TrackedClass) first last,
    history.LooksUp worker trackedClass.name first last none →
    (history.state last).store.readMethods? trackedClass.name = none ∧
      ∀ time, first ≤ time → time ≤ last → history.moves time = .step worker →
        (history.state (time + 1)).catalog = (history.state time).catalog
  /-- A look-up during which the file gives a table does not miss: it gives the table that stands in
  the catalog, or else this one. -/
  sees : ∀ worker (trackedClass : TrackedClass) first last answer table,
    history.LooksUp worker trackedClass.name first last answer →
    (∀ time, first ≤ time → time ≤ last →
      (history.state time).store.readMethods? trackedClass.name = some table) →
    answer = some (((history.state last).catalog.loaded trackedClass).getD table)
  /-- Every answer ends a look-up. -/
  isWhole : ∀ last className answer, history.answer? last = some (className, answer) →
    ∃ worker first, history.LooksUp worker className first last answer
  /-- A class that is not tracked is given nothing and never kept. -/
  untracked : ∀ className, TrackedClass.ofName? className = none → ∀ time,
    (∀ answer, history.answer? time = some (className, answer) → answer = none) ∧
      (history.state time).catalog.isLoaded className = false

theorem isWriteOnce (unloaded : history.catalog = .unloaded) : history.IsWriteOnce where
  agrees _ _ _ _ _ := table_eq_of_answer?
  isRead time className table answers := by
    obtain ⟨trackedClass, rfl⟩ := exists_trackedClass_of_answer? answers
    have wasRead := (wasRead_of_answer? answers).resolve_left (by simp [unloaded,
      Catalog.unloaded])
    have ⟨_, _, _, _, _, stored⟩ := wasRead
    exact ⟨CacheStore.isEmpty_of_readMethods? stored, wasRead⟩
  isKept _ _ _ := loaded_of_answer?
  stays time later trackedClass table kept order :=
    have keptLater := loaded_of_le order kept
    ⟨keptLater, fun _ => answer?_of_begins keptLater⟩
  misses worker trackedClass first last looksUp :=
    ⟨looksUp.readMethods?_eq_none, fun _ => looksUp.catalog_eq⟩
  sees _ _ _ _ _ _ := LooksUp.answer_eq
  isWhole _ _ _ := exists_looksUp_of_answer?
  untracked className unknown time := by
    refine ⟨fun answer answers => ?_, by simp [Catalog.isLoaded, unknown]⟩
    obtain ⟨worker, moves⟩ := exists_moves_of_answer? answers
    exact (steps_of_moves moves).of_untracked answers unknown

end CatalogHistory

end ScriptLint
