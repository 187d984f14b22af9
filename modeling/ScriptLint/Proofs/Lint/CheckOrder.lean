import Mathlib.Data.Nat.Init
import ScriptLint.Command.Check
import ScriptLint.Proofs.Lint.CatalogUses

/-!
# The order of checks

Files are checked against one catalog, which each of them finds filled by the others.  As long as
the store does not change this makes no difference: what the catalog keeps is what the store gives,
so every look-up is answered as it would be at the beginning.  The findings in a file are therefore
those of a check of this file alone, in whatever order and however interleaved the checks are made.
-/

namespace ScriptLint

variable {ι α : Type}

def Catalog.tableNamed (catalog : Catalog) (store : CacheStore) (className : String) :
    Option MethodTable :=
  (catalog.get store className).1

theorem Catalog.tableNamed_name (catalog : Catalog) (store : CacheStore)
    (trackedClass : TrackedClass) :
    catalog.tableNamed store trackedClass.name = catalog.tableOf? store trackedClass := by
  rw [tableNamed, get, TrackedClass.ofName?_name]
  exact catalog.lookUp_fst store trackedClass

/-- A look-up changes no later answer. -/
theorem Catalog.tableNamed_get (catalog : Catalog) (store : CacheStore) (className : String) :
    (catalog.get store className).2.tableNamed store = catalog.tableNamed store := by
  cases tracked : TrackedClass.ofName? className with
  | none => rw [get, tracked]
  | some trackedClass =>
      funext other
      rw [get, tracked]
      cases otherTracked : TrackedClass.ofName? other with
      | none => rw [tableNamed, tableNamed, get, get, otherTracked]
      | some otherClass =>
          obtain rfl := TrackedClass.ofName?_eq_some_iff.mp otherTracked
          rw [tableNamed_name, tableNamed_name]
          exact catalog.tableOf?_lookUp store trackedClass otherClass

namespace LookUps

/-- The result of look-ups that are answered from fixed tables. -/
def resultFrom (tables : String → Option MethodTable) : LookUps α → α
  | done result => result
  | ask className proceed => (proceed (tables className)).resultFrom tables

/-- Look-ups in one store have the result that the answers at the beginning lead to, and change no
later answer. -/
theorem run_eq_resultFrom (store : CacheStore) (lookUps : LookUps α) (catalog : Catalog) :
    (lookUps.run store catalog).1 = lookUps.resultFrom (catalog.tableNamed store) ∧
      (lookUps.run store catalog).2.tableNamed store = catalog.tableNamed store := by
  induction lookUps generalizing catalog with
  | done result => exact ⟨rfl, rfl⟩
  | ask className proceed ih =>
      obtain ⟨resultEq, tablesEq⟩ :=
        ih (catalog.get store className).1 (catalog.get store className).2
      rw [catalog.tableNamed_get] at resultEq tablesEq
      exact ⟨resultEq, tablesEq⟩

end LookUps

/-- How many more steps a look-up can make at most. -/
def LookUpStage.stepsLeft : LookUpStage → Nat
  | beginning => 3
  | missed => 2
  | holding _ => 1

namespace Worker

/-- The result that a worker comes to if it is answered from fixed tables. -/
def resultFrom (tables : String → Option MethodTable) : Worker α → α
  | finished result => result
  | asking className _ proceed => (proceed (tables className)).resultFrom tables

@[simp]
theorem resultFrom_ofLookUps (tables : String → Option MethodTable) (lookUps : LookUps α) :
    (ofLookUps lookUps).resultFrom tables = lookUps.resultFrom tables := by
  cases lookUps <;> rfl

variable {store : CacheStore} {catalog after : Catalog} {worker later : Worker α}
variable {answer : Option (String × Option MethodTable)}

/-- A step that answers from the tables, if at all, keeps the result. -/
theorem Steps.resultFrom_eq (steps : Steps store catalog worker later after answer)
    {tables : String → Option MethodTable}
    (fromTables : ∀ className given, answer = some (className, given) → given = tables className) :
    later.resultFrom tables = worker.resultFrom tables := by
  cases steps with
  | rests | misses | reads => rfl
  | refuses | finds | gives | installs =>
      rw [resultFrom_ofLookUps, resultFrom, ← fromTables _ _ rfl]

theorem Steps.of_worker_asking {className : String} {stage : LookUpStage}
    {proceed : Option MethodTable → LookUps α}
    (steps : Steps store catalog worker later after answer)
    (asks : worker = asking className stage proceed) :
    (∃ given, later = ofLookUps (proceed given)) ∨
      ∃ next : LookUpStage, later = asking className next proceed ∧
        next.stepsLeft < stage.stepsLeft := by
  cases steps with
  | rests => cases asks
  | refuses | finds | gives | installs =>
      cases asks
      exact .inl ⟨_, rfl⟩
  | misses | reads =>
      cases asks
      exact .inr ⟨_, rfl, Nat.lt_succ_self _⟩

end Worker

namespace CatalogHistory

variable [DecidableEq ι] {history : CatalogHistory ι α} {worker : ι} {time : Nat}

theorem eq_of_answer?_of_loaded {trackedClass : TrackedClass} {table : MethodTable}
    {given : Option MethodTable} (kept : history.catalog.loaded trackedClass = some table)
    (answers : history.answer? time = some (trackedClass.name, given)) : given = some table := by
  obtain ⟨worker, first, looksUp⟩ := exists_looksUp_of_answer? answers
  have atOnce := answer?_of_begins (loaded_of_le (Nat.zero_le first) kept) looksUp.begins
  rcases Nat.lt_or_eq_of_le looksUp.first_le_last with before | rfl
  · rw [looksUp.answer?_eq_none (Nat.le_refl first) before looksUp.begins.1] at atOnce
    cases atOnce
  · rw [answers] at atOnce
    cases atOnce
    rfl

section Unchanged

variable (unchanged : ∀ time, ∃ worker, history.moves time = .step worker)

include unchanged in
theorem store_state (time : Nat) : (history.state time).store = history.store := by
  induction time with
  | zero => rfl
  | succ time ih =>
      obtain ⟨worker, moves⟩ := unchanged time
      rw [state, moves]
      exact ih

include unchanged in
/-- Over one store every look-up is answered as it would be at the beginning. -/
theorem eq_tableNamed_of_answer? {className : String} {given : Option MethodTable}
    (answers : history.answer? time = some (className, given)) :
    given = history.catalog.tableNamed history.store className := by
  cases tracked : TrackedClass.ofName? className with
  | none =>
      obtain ⟨worker, moves⟩ := exists_moves_of_answer? answers
      rw [(steps_of_moves moves).of_untracked answers tracked, Catalog.tableNamed, Catalog.get,
        tracked]
  | some trackedClass =>
      obtain rfl := TrackedClass.ofName?_eq_some_iff.mp tracked
      rw [Catalog.tableNamed_name, Catalog.tableOf?]
      cases kept : history.catalog.loaded trackedClass with
      | some table =>
          exact eq_of_answer?_of_loaded kept answers
      | none =>
          cases given with
          | some table =>
              obtain ⟨earlier, -, _, -, -, stored⟩ :=
                (wasRead_of_answer? answers).resolve_left (by simp [kept])
              rw [store_state unchanged] at stored
              rw [stored, Option.none_or]
          | none =>
              obtain ⟨worker, first, looksUp⟩ := exists_looksUp_of_answer? answers
              have lacking := looksUp.readMethods?_eq_none
              rw [store_state unchanged] at lacking
              rw [lacking, Option.none_or]

include unchanged in
/-- Whatever has happened, a worker will come to the result of its look-ups in the catalog as it was
at the beginning. -/
theorem resultFrom_workers (worker : ι) (time : Nat) :
    ((history.state time).workers worker).resultFrom
        (history.catalog.tableNamed history.store) =
      ((history.lookUps worker).run history.store history.catalog).1 := by
  rw [(LookUps.run_eq_resultFrom ..).1]
  induction time with
  | zero => exact Worker.resultFrom_ofLookUps _ _
  | succ time ih =>
      rw [← ih]
      by_cases moves : history.moves time = .step worker
      · exact (steps_of_moves moves).resultFrom_eq fun _ _ =>
          eq_tableNamed_of_answer? unchanged
      · rw [state, SharedCatalog.workers_after_of_ne moves]

end Unchanged

variable (fair : ∀ time, ∃ later, time ≤ later ∧ history.moves later = .step worker)

include fair in
theorem exists_next_step (time : Nat) :
    ∃ later, history.moves later = .step worker ∧
      (history.state later).workers worker = (history.state time).workers worker := by
  obtain ⟨last, order, moves⟩ := fair time
  induction order using Nat.decreasingInduction with
  | self => exact ⟨last, moves, rfl⟩
  | of_succ time order ih =>
      by_cases now : history.moves time = .step worker
      · exact ⟨time, now, rfl⟩
      · obtain ⟨later, movesLater, same⟩ := ih
        refine ⟨later, movesLater, same.trans ?_⟩
        rw [state, SharedCatalog.workers_after_of_ne now]

include fair in
theorem exists_answered {className : String} {stage : LookUpStage}
    {proceed : Option MethodTable → LookUps α}
    (asks : (history.state time).workers worker = .asking className stage proceed) :
    ∃ later given, (history.state later).workers worker = .ofLookUps (proceed given) := by
  induction left : stage.stepsLeft using Nat.strong_induction_on generalizing stage time with
  | _ left ih =>
      subst left
      obtain ⟨later, moves, same⟩ := exists_next_step fair time
      rcases (steps_of_moves moves).of_worker_asking (same.trans asks) with
        ⟨given, answered⟩ | ⟨next, asksOn, fewer⟩
      · exact ⟨later + 1, given, answered⟩
      · exact ih next.stepsLeft fewer asksOn rfl

include fair in
/-- A worker that gets its turn again and again comes to an end. -/
theorem exists_finished : ∃ time result,
    (history.state time).workers worker = .finished result := by
  -- By induction on the look-ups that are left, whenever the worker comes to them.
  suffices ends : ∀ (lookUps : LookUps α) (time : Nat),
      (history.state time).workers worker = .ofLookUps lookUps →
      ∃ later result, (history.state later).workers worker = .finished result from
    ends (history.lookUps worker) 0 rfl
  intro lookUps
  induction lookUps with
  | done result => exact fun time done => ⟨time, result, done⟩
  | ask className proceed ih =>
      intro time asks
      obtain ⟨later, given, answered⟩ := exists_answered fair asks
      exact ih given later answered

end CatalogHistory

namespace Engine

variable (engine : Engine) (store : CacheStore) (source : String) (catalog : Catalog)

theorem checkSource_eq_resultFrom :
    (engine.checkSource store source catalog).1 =
        (engine.callLookUps (scanCalls source)).resultFrom (catalog.tableNamed store) ∧
      (engine.checkSource store source catalog).2.tableNamed store = catalog.tableNamed store := by
  rw [checkSource, ← run_callLookUps]
  exact LookUps.run_eq_resultFrom store _ catalog

/-- A check depends on no more of a catalog than the answers that it gives. -/
theorem checkSource_fst_congr {catalog other : Catalog}
    (same : catalog.tableNamed store = other.tableNamed store) :
    (engine.checkSource store source catalog).1 = (engine.checkSource store source other).1 := by
  rw [(engine.checkSource_eq_resultFrom store source catalog).1,
    (engine.checkSource_eq_resultFrom store source other).1, same]

end Engine

theorem Catalog.tableNamed_warm (catalog : Catalog) (store : CacheStore) :
    (catalog.warm store).2.tableNamed store = catalog.tableNamed store := by
  rw [warm, ← run_missingLookUps]
  exact (LookUps.run_eq_resultFrom store _ catalog).2

namespace Check

/-- The findings in a file that is checked alone, with a fresh catalog. -/
def reportAlone (engine : Engine) (store : CacheStore)
    (readText : String → Except FileError String) (path : String) :
    Except CheckError FileReport :=
  match readText path with
  | .error cause => .error (.unreadable path cause)
  | .ok source => .ok ⟨path, (engine.checkSource store source .unloaded).1⟩

/-- Files that share a catalog are reported as each of them is alone. -/
theorem checkFiles_eq_mapM (engine : Engine) (store : CacheStore)
    (readText : String → Except FileError String) (files : List String) (catalog : Catalog)
    (fresh : catalog.tableNamed store = Catalog.unloaded.tableNamed store) :
    checkFiles engine store readText files catalog =
      files.mapM (reportAlone engine store readText) := by
  induction files generalizing catalog with
  | nil => rfl
  | cons path rest ih =>
      rw [checkFiles, List.mapM_cons, reportAlone]
      cases readText path with
      | error cause => rfl
      | ok source =>
          have later := (engine.checkSource_eq_resultFrom store source catalog).2.trans fresh
          dsimp only
          rw [ih _ later, engine.checkSource_fst_congr store source fresh]
          cases rest.mapM (reportAlone engine store readText) <;> rfl

end Check

/-- Scripts are checked against one catalog over a store that does not change, which is empty at the
beginning or has been warmed up.  Then a check that has come to its end has found what a check of
this script alone finds with a fresh catalog, however the steps of the checks are interleaved, and a
check that gets its turn again and again comes to its end.  Files that are checked one after the
other are likewise reported as each of them is alone, in whatever order they stand. -/
theorem checks_find_what_each_finds_alone {ι : Type} [DecidableEq ι] (engine : Engine)
    (store : CacheStore) (scripts : ι → String) (schedule : Nat → ι) (warmed : Bool) :
    let start : Catalog := if warmed then (Catalog.unloaded.warm store).2 else .unloaded
    let history : CatalogHistory ι CatalogUse.Result :=
      ⟨start, store, fun script => (CatalogUse.check engine (scripts script)).lookUps,
        fun time => .step (schedule time)⟩
    let alone : ι → CatalogUse.Result := fun script =>
      .findings (engine.checkSource store (scripts script) .unloaded).1
    (∀ time script result, (history.state time).workers script = .finished result →
        result = alone script) ∧
      (∀ script, (∀ time, ∃ later, time ≤ later ∧ schedule later = script) →
        ∃ time, (history.state time).workers script = .finished (alone script)) ∧
      ∀ (readText : String → Except FileError String) (files : List String),
        Check.checkFiles engine store readText files start =
          files.mapM (Check.reportAlone engine store readText) := by
  intro start history alone
  have fresh : start.tableNamed store = Catalog.unloaded.tableNamed store := by
    cases warmed with
    | false => rfl
    | true => exact Catalog.tableNamed_warm .unloaded store
  have finds : ∀ time script result, (history.state time).workers script = .finished result →
      result = alone script := by
    intro time script result finished
    have unchanged : ∀ time, ∃ worker, history.moves time = .step worker :=
      fun time => ⟨schedule time, rfl⟩
    calc
      result = ((history.lookUps script).run store start).1 := by
        rw [← history.resultFrom_workers unchanged script time, finished]
        rfl
      _ = .findings (engine.checkSource store (scripts script) start).1 := by
        rw [CatalogUse.run_lookUps]
        rfl
      _ = alone script :=
        congrArg _ (engine.checkSource_fst_congr store (scripts script) fresh)
  refine ⟨finds, fun script fair => ?_, fun readText files =>
    Check.checkFiles_eq_mapM engine store readText files start fresh⟩
  have turns : ∀ time, ∃ later, time ≤ later ∧ history.moves later = .step script := by
    intro time
    obtain ⟨later, order, scheduled⟩ := fair time
    exact ⟨later, order, congrArg _ scheduled⟩
  obtain ⟨time, result, finished⟩ := history.exists_finished turns
  obtain rfl := finds time script result finished
  exact ⟨time, finished⟩

end ScriptLint
