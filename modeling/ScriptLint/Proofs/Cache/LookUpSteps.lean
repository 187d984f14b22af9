import Mathlib.Logic.Function.Iterate
import ScriptLint.Proofs.Cache.CatalogLookUp

/-!
# Look-ups step by step

Several workers may look classes up in one catalog at the same time.  What a look-up does to the
catalog and to the files then happens in single steps, between which the others go on: it looks
whether the table is kept, it reads the file, and it puts the table into the catalog unless another
look-up has done so.  A look-up that is left alone gives what `Catalog.get` gives.
-/

namespace ScriptLint

/-- Look-ups made one after the other, with what is done about each answer. -/
inductive LookUps (α : Type) where
  | done (result : α)
  | ask (className : String) (proceed : Option MethodTable → LookUps α)

namespace LookUps

variable {α β : Type}

def map (f : α → β) : LookUps α → LookUps β
  | done result => done (f result)
  | ask className proceed => ask className fun table => (proceed table).map f

/-- The result of look-ups that nobody interrupts, and the catalog afterwards. -/
def run (store : CacheStore) : LookUps α → Catalog → α × Catalog
  | done result, catalog => (result, catalog)
  | ask className proceed, catalog =>
    let (table, later) := catalog.get store className
    (proceed table).run store later

@[simp]
theorem run_map (f : α → β) (lookUps : LookUps α) (store : CacheStore) (catalog : Catalog) :
    (lookUps.map f).run store catalog =
      (f (lookUps.run store catalog).1, (lookUps.run store catalog).2) := by
  induction lookUps generalizing catalog with
  | done result => rfl
  | ask className proceed ih => exact ih _ _

end LookUps

/-- How far a look-up has come. -/
inductive LookUpStage where
  | beginning
  /-- No table was kept, so the file is to be read. -/
  | missed
  /-- A table was read, which is to be put into the catalog. -/
  | holding (table : MethodTable)

namespace LookUpStage

inductive Progress where
  | reached (stage : LookUpStage)
  | answered (table : Option MethodTable)

/-- The next step of a look-up, and the catalog afterwards. -/
def step (store : CacheStore) (catalog : Catalog) (className : String) (stage : LookUpStage) :
    Progress × Catalog :=
  match TrackedClass.ofName? className with
  | none => (.answered none, catalog)
  | some trackedClass =>
    match stage with
    | beginning =>
      match catalog.loaded trackedClass with
      | some table => (.answered (some table), catalog)
      | none => (.reached missed, catalog)
    | missed =>
      match store.readMethods? className with
      | some table => (.reached (holding table), catalog)
      | none => (.answered none, catalog)
    | holding table =>
      let installed := catalog.install trackedClass table
      (.answered (installed.loaded trackedClass), installed)

end LookUpStage

/-- Someone who looks classes up, at some point of a look-up or at the end of all. -/
inductive Worker (α : Type) where
  | finished (result : α)
  | asking (className : String) (stage : LookUpStage) (proceed : Option MethodTable → LookUps α)

namespace Worker

variable {α : Type}

/-- A worker that is about to make the first of some look-ups. -/
def ofLookUps : LookUps α → Worker α
  | .done result => finished result
  | .ask className proceed => asking className .beginning proceed

def step (store : CacheStore) (catalog : Catalog) : Worker α → Worker α × Catalog
  | finished result => (finished result, catalog)
  | asking className stage proceed =>
    match stage.step store catalog className with
    | (.reached later, after) => (asking className later proceed, after)
    | (.answered table, after) => (ofLookUps (proceed table), after)

/-- The answer that the next step of a worker gives to its look-up, with the class. -/
def answer? (store : CacheStore) (catalog : Catalog) :
    Worker α → Option (String × Option MethodTable)
  | finished _ => none
  | asking className stage _ =>
    match (stage.step store catalog className).1 with
    | .reached _ => none
    | .answered table => some (className, table)

theorem asking_ne_ofLookUps {className : String} {stage : LookUpStage}
    {proceed : Option MethodTable → LookUps α} {lookUps : LookUps α}
    (underway : stage ≠ .beginning) : asking className stage proceed ≠ ofLookUps lookUps := by
  rintro same
  cases lookUps with
  | done result => cases same
  | ask other next =>
      cases same
      exact underway rfl

/-- All that a step of a worker can do: the worker and the catalog afterwards, and the answer. -/
inductive Steps (store : CacheStore) (catalog : Catalog) :
    Worker α → Worker α → Catalog → Option (String × Option MethodTable) → Prop
  | rests (result : α) : Steps store catalog (finished result) (finished result) catalog none
  | refuses {className : String} (stage : LookUpStage)
      (proceed : Option MethodTable → LookUps α)
      (untracked : TrackedClass.ofName? className = none) :
      Steps store catalog (asking className stage proceed) (ofLookUps (proceed none)) catalog
        (some (className, none))
  | finds {trackedClass : TrackedClass} {table : MethodTable}
      (proceed : Option MethodTable → LookUps α)
      (kept : catalog.loaded trackedClass = some table) :
      Steps store catalog (asking trackedClass.name .beginning proceed)
        (ofLookUps (proceed (some table))) catalog (some (trackedClass.name, some table))
  | misses {trackedClass : TrackedClass} (proceed : Option MethodTable → LookUps α)
      (missing : catalog.loaded trackedClass = none) :
      Steps store catalog (asking trackedClass.name .beginning proceed)
        (asking trackedClass.name .missed proceed) catalog none
  | reads {trackedClass : TrackedClass} {table : MethodTable}
      (proceed : Option MethodTable → LookUps α)
      (stored : store.readMethods? trackedClass.name = some table) :
      Steps store catalog (asking trackedClass.name .missed proceed)
        (asking trackedClass.name (.holding table) proceed) catalog none
  | gives {trackedClass : TrackedClass} (proceed : Option MethodTable → LookUps α)
      (lacking : store.readMethods? trackedClass.name = none) :
      Steps store catalog (asking trackedClass.name .missed proceed) (ofLookUps (proceed none))
        catalog (some (trackedClass.name, none))
  | installs (trackedClass : TrackedClass) (table : MethodTable)
      (proceed : Option MethodTable → LookUps α) :
      Steps store catalog (asking trackedClass.name (.holding table) proceed)
        (ofLookUps (proceed (some ((catalog.loaded trackedClass).getD table))))
        (catalog.install trackedClass table)
        (some (trackedClass.name, some ((catalog.loaded trackedClass).getD table)))

theorem steps (store : CacheStore) (catalog : Catalog) (worker : Worker α) :
    Steps store catalog worker (worker.step store catalog).1 (worker.step store catalog).2
      (worker.answer? store catalog) := by
  cases worker with
  | finished result => exact .rests result
  | asking className stage proceed =>
      cases tracked : TrackedClass.ofName? className with
      | none =>
          simpa [step, answer?, LookUpStage.step, tracked] using .refuses stage proceed tracked
      | some trackedClass =>
          obtain rfl := TrackedClass.ofName?_eq_some_iff.mp tracked
          cases stage with
          | beginning =>
              cases kept : catalog.loaded trackedClass with
              | some table =>
                  simpa [step, answer?, LookUpStage.step, kept] using .finds proceed kept
              | none =>
                  simpa [step, answer?, LookUpStage.step, kept] using .misses proceed kept
          | missed =>
              cases stored : store.readMethods? trackedClass.name with
              | some table =>
                  simpa [step, answer?, LookUpStage.step, stored] using .reads proceed stored
              | none => simpa [step, answer?, LookUpStage.step, stored] using .gives proceed stored
          | holding table =>
              simpa [step, answer?, LookUpStage.step, Catalog.loaded_install_self] using
                .installs trackedClass table proceed

namespace Steps

variable {store : CacheStore} {catalog after : Catalog} {worker later : Worker α}
variable {answer : Option (String × Option MethodTable)}
variable {className : String} {trackedClass : TrackedClass} {table : MethodTable}

theorem loaded_of_loaded (steps : Steps store catalog worker later after answer)
    (kept : catalog.loaded trackedClass = some table) :
    after.loaded trackedClass = some table := by
  cases steps with
  | installs other read proceed => exact catalog.loaded_install_of_loaded other _ read kept
  | _ => exact kept

/-- What is kept after a step was kept before, or is the table that the worker held. -/
theorem of_loaded (steps : Steps store catalog worker later after answer)
    (kept : after.loaded trackedClass = some table) :
    catalog.loaded trackedClass = some table ∨
      ∃ proceed, worker = asking trackedClass.name (.holding table) proceed := by
  cases steps with
  | installs other read proceed =>
      by_cases known : catalog.loaded trackedClass = some table
      · exact .inl known
      · obtain ⟨rfl, rfl⟩ := catalog.eq_of_loaded_install _ _ kept known
        exact .inr ⟨proceed, rfl⟩
  | _ => exact .inl kept

/-- A look-up that has begun and goes on after a step has missed in this step, or has read. -/
theorem of_asking {stage : LookUpStage} {proceed : Option MethodTable → LookUps α}
    (steps : Steps store catalog worker later after answer)
    (asks : later = asking className stage proceed) (begun : stage ≠ .beginning) :
    (worker = asking className .beginning proceed ∧ stage = .missed) ∨
      ∃ table, worker = asking className .missed proceed ∧ stage = .holding table ∧
        store.readMethods? className = some table := by
  cases steps with
  | rests => cases asks
  | misses proceed missing =>
      cases asks
      exact .inl ⟨rfl, rfl⟩
  | reads proceed stored =>
      cases asks
      exact .inr ⟨_, rfl, rfl, stored⟩
  | refuses | finds | gives | installs => exact absurd asks.symm (asking_ne_ofLookUps begun)

/-- An answer is the table that is kept, or nothing because the file gives nothing, or the table
that stands in the catalog after an installation. -/
theorem of_answer {given : Option MethodTable}
    (steps : Steps store catalog worker later after answer)
    (answers : answer = some (trackedClass.name, given)) :
    (∃ table, catalog.loaded trackedClass = some table ∧ given = some table ∧ after = catalog) ∨
      (store.readMethods? trackedClass.name = none ∧ given = none ∧ after = catalog) ∨
      ∃ table proceed, worker = asking trackedClass.name (.holding table) proceed ∧
        given = some ((catalog.loaded trackedClass).getD table) ∧
        after = catalog.install trackedClass table := by
  cases steps with
  | rests | misses | reads => cases answers
  | refuses stage proceed untracked =>
      obtain ⟨rfl, -⟩ := Prod.mk.inj (Option.some.inj answers)
      rw [TrackedClass.ofName?_name] at untracked
      cases untracked
  | finds proceed kept =>
      obtain ⟨sameName, rfl⟩ := Prod.mk.inj (Option.some.inj answers)
      obtain rfl := TrackedClass.name_injective sameName
      exact .inl ⟨_, kept, rfl, rfl⟩
  | gives proceed lacking =>
      obtain ⟨sameName, rfl⟩ := Prod.mk.inj (Option.some.inj answers)
      exact .inr (.inl ⟨sameName ▸ lacking, rfl, rfl⟩)
  | installs other table proceed =>
      obtain ⟨sameName, rfl⟩ := Prod.mk.inj (Option.some.inj answers)
      obtain rfl := TrackedClass.name_injective sameName
      exact .inr (.inr ⟨table, proceed, rfl, rfl, rfl⟩)

theorem of_untracked {given : Option MethodTable}
    (steps : Steps store catalog worker later after answer)
    (answers : answer = some (className, given))
    (untracked : TrackedClass.ofName? className = none) : given = none := by
  cases steps with
  | rests | misses | reads => cases answers
  | refuses | gives =>
      obtain ⟨-, rfl⟩ := Prod.mk.inj (Option.some.inj answers)
      rfl
  | finds | installs =>
      obtain ⟨rfl, -⟩ := Prod.mk.inj (Option.some.inj answers)
      rw [TrackedClass.ofName?_name] at untracked
      cases untracked

theorem catalog_eq (steps : Steps store catalog worker later after answer)
    (unanswered : ∀ className table, answer ≠ some (className, some table)) : after = catalog := by
  cases steps with
  | installs => exact absurd rfl (unanswered _ _)
  | _ => rfl

theorem of_answered {given : Option MethodTable}
    (steps : Steps store catalog worker later after answer)
    (answers : answer = some (className, given)) :
    ∃ stage proceed, worker = asking className stage proceed ∧
      later = ofLookUps (proceed given) := by
  cases steps with
  | rests | misses | reads => cases answers
  | refuses | finds | gives | installs =>
      obtain ⟨rfl, rfl⟩ := Prod.mk.inj (Option.some.inj answers)
      exact ⟨_, _, rfl, rfl⟩

theorem of_beginning {proceed : Option MethodTable → LookUps α}
    (steps : Steps store catalog worker later after answer)
    (begins : worker = asking trackedClass.name .beginning proceed)
    (kept : catalog.loaded trackedClass = some table) :
    answer = some (trackedClass.name, some table) := by
  cases steps with
  | refuses stage proceed untracked =>
      cases begins
      rw [TrackedClass.ofName?_name] at untracked
      cases untracked
  | @finds other found proceed known =>
      injection begins with sameName
      obtain rfl := TrackedClass.name_injective sameName
      rw [kept] at known
      rw [Option.some.inj known]
  | @misses other proceed missing =>
      injection begins with sameName
      obtain rfl := TrackedClass.name_injective sameName
      rw [kept] at missing
      cases missing
  | rests => cases begins
  | reads | gives | installs =>
      injection begins with _ sameStage
      cases sameStage

end Steps

/-- A worker and the catalog after so many steps of the worker. -/
def alone (store : CacheStore) (count : Nat) : Worker α × Catalog → Worker α × Catalog :=
  (fun (worker, catalog) => worker.step store catalog)^[count]

/-- The steps of a look-up that nobody interrupts make up the look-up. -/
theorem exists_alone_eq_get (store : CacheStore) (catalog : Catalog) (className : String)
    (proceed : Option MethodTable → LookUps α) :
    ∃ count, alone store count (asking className .beginning proceed, catalog) =
      (ofLookUps (proceed (catalog.get store className).1), (catalog.get store className).2) := by
  -- A kept table takes one step, a file without a table two, and one that is installed three.
  cases tracked : TrackedClass.ofName? className with
  | none => exact ⟨1, by simp [alone, step, LookUpStage.step, Catalog.get, tracked]⟩
  | some trackedClass =>
      obtain rfl := TrackedClass.ofName?_eq_some_iff.mp tracked
      cases kept : catalog.loaded trackedClass with
      | some table =>
          exact ⟨1, by simp [alone, step, LookUpStage.step, Catalog.get, Catalog.lookUp, kept]⟩
      | none =>
          cases stored : store.readMethods? trackedClass.name with
          | none =>
              exact ⟨2, by
                simp [alone, step, LookUpStage.step, Catalog.get, Catalog.lookUp, kept, stored]⟩
          | some table =>
              exact ⟨3, by
                simp [alone, step, LookUpStage.step, Catalog.get, Catalog.lookUp, kept, stored]⟩

/-- A worker that nobody interrupts comes to the result of its look-ups. -/
theorem exists_alone_eq_run (store : CacheStore) (lookUps : LookUps α) (catalog : Catalog) :
    ∃ count, alone store count (ofLookUps lookUps, catalog) =
      (finished (lookUps.run store catalog).1, (lookUps.run store catalog).2) := by
  induction lookUps generalizing catalog with
  | done result => exact ⟨0, rfl⟩
  | ask className proceed ih =>
      obtain ⟨first, answered⟩ := exists_alone_eq_get store catalog className proceed
      obtain ⟨rest, finishes⟩ :=
        ih (catalog.get store className).1 (catalog.get store className).2
      refine ⟨rest + first, ?_⟩
      rw [alone, Function.iterate_add_apply]
      rw [alone] at answered finishes
      exact (congrArg _ answered).trans finishes

end Worker

end ScriptLint
