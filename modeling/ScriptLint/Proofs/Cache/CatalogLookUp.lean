import ScriptLint.Cache.Catalog

/-!
# What a catalog gives

A catalog gives the table that it has kept, or else the one in the store.  Over one store a look-up
changes no later answer: what it keeps is what the store would have given.
-/

namespace ScriptLint.Catalog

variable (catalog : Catalog) (store : CacheStore) (trackedClass other : TrackedClass)

/-- The table that a catalog has for a class: the kept one, or else the one in the store. -/
def tableOf? : Option MethodTable :=
  (catalog.loaded trackedClass).or (store.readMethods? trackedClass.name)

theorem loaded_install (table : MethodTable) (missing : catalog.loaded trackedClass = none) :
    (catalog.install trackedClass table).loaded other =
      if other = trackedClass then some table else catalog.loaded other := by
  simp [install, missing]

/-- After an installation the class has the table that it had before, or else the new one. -/
theorem loaded_install_self (table : MethodTable) :
    (catalog.install trackedClass table).loaded trackedClass =
      some ((catalog.loaded trackedClass).getD table) := by
  cases kept : catalog.loaded trackedClass with
  | some known => simp [install, kept]
  | none => simp [loaded_install, kept]

theorem loaded_install_of_loaded {kept : MethodTable} (table : MethodTable)
    (known : catalog.loaded other = some kept) :
    (catalog.install trackedClass table).loaded other = some kept := by
  by_cases same : other = trackedClass
  · subst same
    rw [loaded_install_self, known, Option.getD_some]
  · cases present : catalog.loaded trackedClass <;> simp [install, present, same, known]

/-- Whatever an installation adds is the table that is installed. -/
theorem eq_of_loaded_install {table kept : MethodTable}
    (known : (catalog.install trackedClass table).loaded other = some kept)
    (unknown : catalog.loaded other ≠ some kept) : other = trackedClass ∧ kept = table := by
  rw [install] at known
  split at known
  · exact absurd known unknown
  · dsimp only at known
    split at known
    next same => exact ⟨same, (Option.some.inj known).symm⟩
    next => exact absurd known unknown

theorem lookUp_fst :
    (catalog.lookUp store trackedClass).1 = catalog.tableOf? store trackedClass := by
  rw [tableOf?, lookUp]
  cases kept : catalog.loaded trackedClass with
  | some table => rfl
  | none =>
      cases stored : store.readMethods? trackedClass.name with
      | none => rfl
      | some table => simp [loaded_install, kept]

/-- A look-up keeps the table that it gives, and all tables kept before. -/
theorem loaded_lookUp :
    (catalog.lookUp store trackedClass).2.loaded other =
      if other = trackedClass then catalog.tableOf? store trackedClass
      else catalog.loaded other := by
  rw [tableOf?, lookUp]
  cases kept : catalog.loaded trackedClass with
  | some table =>
      by_cases same : other = trackedClass
      · simp [same, kept]
      · simp [same]
  | none =>
      cases stored : store.readMethods? trackedClass.name with
      | none =>
          by_cases same : other = trackedClass
          · simp [same, kept]
          · simp [same]
      | some table => simp [loaded_install, kept]

theorem tableOf?_lookUp :
    (catalog.lookUp store trackedClass).2.tableOf? store other = catalog.tableOf? store other := by
  rw [tableOf?, loaded_lookUp]
  by_cases same : other = trackedClass
  · subst same
    rw [if_pos rfl, tableOf?, Option.or_assoc, Option.or_self]
  · rw [if_neg same, tableOf?]

end ScriptLint.Catalog
