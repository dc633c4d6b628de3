import RowStore.Catalog

/-!
Catalogs: the two maps of a catalog stay each other's inverse. A name belongs to a table just when
the table has that name, after any registrations, whether or not these succeeded. A registration is
taken step by step, too, on the catalog itself, where one that fails halfway would leave its first
half behind; it fails before its first step, or moves just the one table and the one name.
-/

set_option autoImplicit false

namespace RowStore

namespace Catalog

/-! ### What is registered after a file was placed -/

@[simp] theorem tables_vacateTable (catalog : Catalog) (table : TableId) (name : String) :
    (catalog.vacateTable table name).tables = catalog.tables := by
  unfold vacateTable
  split
  · rfl
  · split <;> rfl

theorem tables_place (catalog : Catalog) (file : TableFile) (name : String) (table : TableId) :
    (catalog.place file name).tables[table]? =
      if file.id = table then some ⟨name, file⟩
      else if catalog.names[name]? = some table then none
      else catalog.tables[table]? := by
  simp only [place, tables_vacateTable, Std.ExtTreeMap.getElem?_insert,
    Std.LawfulEqCmp.compare_eq_iff_eq]
  by_cases own : file.id = table
  · rw [if_pos own, if_pos own]
  · rw [if_neg own, if_neg own]
    unfold vacateName
    split
    · rename_i free
      rw [free, if_neg (by simp)]
    · rename_i old taken
      rw [taken]
      by_cases keeps : old = file.id
      · rw [if_pos keeps, if_neg (fun same => own (keeps ▸ Option.some.inj same))]
      · simp only [if_neg keeps, Std.ExtTreeMap.getElem?_erase, Std.LawfulEqCmp.compare_eq_iff_eq,
          Option.some.injEq]

theorem names_place (catalog : Catalog) (file : TableFile) (name other : String) :
    (catalog.place file name).names[other]? =
      if name = other then some file.id
      else if (catalog.tables[file.id]?).map TableEntry.name = some other then none
      else catalog.names[other]? := by
  have own : (catalog.vacateName name file.id).tables[file.id]? = catalog.tables[file.id]? := by
    unfold vacateName
    split
    · rfl
    · dsimp only
      split
      · rfl
      · rename_i different
        rw [Std.ExtTreeMap.getElem?_erase,
          if_neg (fun same => different (Std.LawfulEqCmp.compare_eq_iff_eq.mp same))]
  have vacated (different : name ≠ other) :
      (catalog.vacateName name file.id).names[other]? = catalog.names[other]? := by
    unfold vacateName
    split
    · rfl
    · rw [Std.ExtTreeMap.getElem?_erase,
        if_neg (fun same => different (Std.LawfulEqCmp.compare_eq_iff_eq.mp same))]
  simp only [place, Std.ExtTreeMap.getElem?_insert, Std.LawfulEqCmp.compare_eq_iff_eq]
  by_cases same : name = other
  · rw [if_pos same, if_pos same]
  · rw [if_neg same, if_neg same]
    unfold vacateTable
    rw [own]
    cases catalog.tables[file.id]? with
    | none => exact vacated same
    | some entry =>
        dsimp only
        by_cases unchanged : entry.name = name
        · rw [if_pos unchanged, vacated same, Option.map_some, unchanged,
            if_neg (fun equal => same (Option.some.inj equal))]
        · simp only [if_neg unchanged, Std.ExtTreeMap.getElem?_erase,
            Std.LawfulEqCmp.compare_eq_iff_eq, vacated same, Option.map_some, Option.some.injEq]

theorem register_cases (catalog : Catalog) (file : TableFile) (name : String) :
    ((∀ entry, catalog.tables[file.id]? = some entry → entry.file.path = file.path) ∧
        catalog.register file name = .ok (catalog.place file name)) ∨
      ∃ entry, catalog.tables[file.id]? = some entry ∧ entry.file.path ≠ file.path ∧
        catalog.register file name =
          .error (.config (.tableIdInUse file.id entry.file.path file.path)) := by
  unfold register
  cases found : catalog.tables[file.id]? with
  | none =>
      refine Or.inl ⟨?_, rfl⟩
      intro entry impossible
      cases impossible
  | some entry =>
      dsimp only
      by_cases same : entry.file.path = file.path
      · rw [if_pos same]
        refine Or.inl ⟨?_, rfl⟩
        intro other isOther
        cases isOther
        exact same
      · rw [if_neg same]
        exact Or.inr ⟨entry, rfl, same, rfl⟩

theorem eq_place_of_register {catalog registered : Catalog} {file : TableFile} {name : String}
    (registers : catalog.register file name = .ok registered) :
    registered = catalog.place file name := by
  rcases catalog.register_cases file name with ⟨_, placed⟩ | ⟨_, _, _, refused⟩
  · rw [placed] at registers
    cases registers
    rfl
  · rw [refused] at registers
    cases registers

/-! ### Registering step by step -/

/-- Steps on a catalog. A fault keeps what was changed before it. -/
abbrev Steps (Answer : Type) : Type :=
  EStateM Fault Catalog Answer

def takeName (name : String) : Steps (Option TableId) :=
  modifyGet (fun catalog => (catalog.names[name]?,
    { catalog with names := catalog.names.erase name }))

def giveName (name : String) (table : TableId) : Steps Unit :=
  modify (fun catalog => { catalog with names := catalog.names.insert name table })

def dropTable (table : TableId) : Steps Unit :=
  modify (fun catalog => { catalog with tables := catalog.tables.erase table })

def enterTable (table : TableId) (entry : TableEntry) : Steps (Option TableEntry) :=
  modifyGet (fun catalog => (catalog.tables[table]?,
    { catalog with tables := catalog.tables.insert table entry }))

def admitInPlace (file : TableFile) : Steps Unit := do
  let catalog ← get
  match catalog.tables[file.id]? with
  | none => return ()
  | some entry =>
      if entry.file.path ≠ file.path then
        throw (.config (.tableIdInUse file.id entry.file.path file.path))

def vacateNameInPlace (name : String) (kept : TableId) : Steps Unit := do
  match ← takeName name with
  | none => return ()
  | some old => if old ≠ kept then dropTable old

def enterInPlace (file : TableFile) (name : String) : Steps Unit := do
  match ← enterTable file.id ⟨name, file⟩ with
  | none => return ()
  | some previous => if previous.name ≠ name then discard (takeName previous.name)

def registerInPlace (file : TableFile) (name : String) : Steps TableId := do
  admitInPlace file
  vacateNameInPlace name file.id
  enterInPlace file name
  giveName name file.id
  return file.id

theorem erase_eq_of_free {names : Std.ExtTreeMap String TableId} {name : String}
    (free : names[name]? = none) : names.erase name = names := by
  apply Std.ExtTreeMap.ext_getElem?
  intro other
  rw [Std.ExtTreeMap.getElem?_erase]
  split
  · rename_i same
    rw [← Std.LawfulEqCmp.compare_eq_iff_eq.mp same, free]
  · rfl

theorem run_vacateNameInPlace (catalog : Catalog) (name : String) (kept : TableId) :
    (vacateNameInPlace name kept).run catalog = .ok () (catalog.vacateName name kept) := by
  unfold vacateName
  cases taken : catalog.names[name]? with
  | none =>
      simp only [vacateNameInPlace, takeName, EStateM.run_bind, EStateM.run_modifyGet, taken,
        erase_eq_of_free taken]
      rfl
  | some old =>
      simp only [vacateNameInPlace, takeName, EStateM.run_bind, EStateM.run_modifyGet, taken]
      by_cases same : old = kept
      · rw [if_neg (not_not_intro same), if_pos same]
        rfl
      · rw [if_pos same, if_neg same]
        rfl

theorem run_enterInPlace (catalog : Catalog) (file : TableFile) (name : String) :
    (enterInPlace file name).run catalog = .ok ()
      { tables := catalog.tables.insert file.id ⟨name, file⟩
        names := (catalog.vacateTable file.id name).names } := by
  unfold vacateTable
  cases found : catalog.tables[file.id]? with
  | none =>
      simp only [enterInPlace, enterTable, EStateM.run_bind, EStateM.run_modifyGet, found]
      rfl
  | some previous =>
      simp only [enterInPlace, enterTable, EStateM.run_bind, EStateM.run_modifyGet, found]
      by_cases same : previous.name = name
      · rw [if_neg (not_not_intro same), if_pos same]
        rfl
      · rw [if_pos same, if_neg same]
        rfl

theorem run_admitInPlace (catalog : Catalog) (file : TableFile) (name : String) :
    (admitInPlace file).run catalog = match catalog.register file name with
      | .ok _ => .ok () catalog
      | .error fault => .error fault catalog := by
  unfold register
  cases found : catalog.tables[file.id]? with
  | none =>
      simp only [admitInPlace, EStateM.run_bind, EStateM.run_get, found]
      rfl
  | some entry =>
      simp only [admitInPlace, EStateM.run_bind, EStateM.run_get, found]
      by_cases same : entry.file.path = file.path
      · rw [if_neg (not_not_intro same), if_pos same]
        rfl
      · rw [if_pos same, if_neg same]
        rfl

theorem run_registerInPlace (catalog : Catalog) (file : TableFile) (name : String) :
    (registerInPlace file name).run catalog = match catalog.register file name with
      | .ok registered => .ok file.id registered
      | .error fault => .error fault catalog := by
  have admits := catalog.run_admitInPlace file name
  rcases catalog.register_cases file name with ⟨_, placed⟩ | ⟨_, _, _, refused⟩
  · rw [placed] at admits ⊢
    simp only [registerInPlace, EStateM.run_bind, admits, run_vacateNameInPlace, run_enterInPlace,
      place, tables_vacateTable]
    rfl
  · rw [refused] at admits ⊢
    simp only [registerInPlace, EStateM.run_bind, admits]

/-! ### Maps that are each other's inverse -/

/-- Each name is that of the table it belongs to and of no other, and each file is found under its
own identifier. -/
structure Paired (catalog : Catalog) : Prop where
  named : ∀ name table, catalog.names[name]? = some table ↔
    (catalog.tables[table]?).map TableEntry.name = some name
  filed : ∀ (table : TableId) (entry : TableEntry), catalog.tables[table]? = some entry →
    entry.file.id = table

theorem paired_empty : empty.Paired := by
  constructor
  · intro name table
    simp [empty]
  · intro table entry found
    simp [empty] at found

theorem Paired.place {catalog : Catalog} (paired : catalog.Paired) (file : TableFile)
    (name : String) : (catalog.place file name).Paired := by
  constructor
  · intro other table
    rw [names_place, tables_place]
    by_cases same : name = other
    · subst other
      rw [if_pos rfl]
      by_cases own : file.id = table
      · rw [if_pos own, own]
        simp
      · rw [if_neg own]
        by_cases old : catalog.names[name]? = some table
        · simp [old, own]
        · rw [if_neg old, ← paired.named]
          simp [old, own]
    · rw [if_neg same]
      by_cases own : file.id = table
      · subst table
        rw [if_pos rfl, Option.map_some, Option.some.injEq]
        constructor
        · intro belongs
          split at belongs
          · cases belongs
          · rename_i kept
            exact absurd ((paired.named other file.id).mp belongs) kept
        · intro equal
          exact absurd equal same
      · rw [if_neg own]
        by_cases dropped : (catalog.tables[file.id]?).map TableEntry.name = some other
        · -- The name belonged to the table that is placed, so it was no other table's.
          have others := (paired.named other file.id).mpr dropped
          have absent : (catalog.tables[table]?).map TableEntry.name ≠ some other := by
            rw [ne_eq, ← paired.named, others]
            exact fun equal => own (Option.some.inj equal)
          rw [if_pos dropped]
          split
          · simp
          · simp [absent]
        · rw [if_neg dropped, paired.named]
          by_cases old : catalog.names[name]? = some table
          · rw [if_pos old, (paired.named name table).mp old]
            simp [same]
          · rw [if_neg old]
  · intro table entry found
    rw [tables_place] at found
    split at found
    · rename_i own
      cases found
      exact own
    · split at found
      · cases found
      · exact paired.filed table entry found

/-! ### Calls -/

inductive Call where
  | register (file : TableFile) (name : String)
  | clear

def after (catalog : Catalog) : Call → Catalog
  | .register file name => (catalog.register file name).toOption.getD catalog
  | .clear => empty

def afterEach (calls : List Call) : Catalog :=
  calls.foldl after empty

def call (catalog : Catalog) : Call → Catalog
  | .register file name =>
      match (registerInPlace file name).run catalog with
      | .ok _ after => after
      | .error _ after => after
  | .clear => empty

def callEach (calls : List Call) : Catalog :=
  calls.foldl call empty

theorem call_eq (catalog : Catalog) (asked : Call) : catalog.call asked = catalog.after asked := by
  cases asked with
  | register file name =>
      unfold call after
      dsimp only
      rw [run_registerInPlace]
      cases catalog.register file name <;> rfl
  | clear => rfl

theorem callEach_eq (calls : List Call) : callEach calls = afterEach calls := by
  have same : call = after := by
    funext catalog asked
    exact catalog.call_eq asked
  rw [callEach, same, afterEach]

theorem Paired.after {catalog : Catalog} (paired : catalog.Paired) (asked : Call) :
    (catalog.after asked).Paired := by
  cases asked with
  | register file name =>
      unfold Catalog.after
      dsimp only
      rcases catalog.register_cases file name with ⟨_, placed⟩ | ⟨_, _, _, refused⟩
      · rw [placed]
        exact paired.place file name
      · rw [refused]
        exact paired
  | clear => exact paired_empty

theorem Paired.foldl_after {catalog : Catalog} (paired : catalog.Paired) (calls : List Call) :
    (calls.foldl Catalog.after catalog).Paired := by
  induction calls generalizing catalog with
  | nil => exact paired
  | cons first rest ih => exact ih (paired.after first)

/-! ### What look-ups tell -/

/-- The table has come to be registered under the name. The name that it had and the table that had
the name are gone, and all else is found as before. -/
structure Registered (before after : Catalog) (file : TableFile) (name : String) : Prop where
  named : after.tableNamed name = .ok file.id
  entered : after.entry? file.id = some ⟨name, file⟩
  oldName : ∀ old, before.nameOf file.id = .ok old → old ≠ name →
    after.tableNamed old = .error (.nameNotFound old)
  oldTable : ∀ old, before.tableNamed name = .ok old → old ≠ file.id → after.entry? old = none
  otherNames : ∀ other, other ≠ name → before.nameOf file.id ≠ .ok other →
    after.tableNamed other = before.tableNamed other
  otherTables : ∀ other, other ≠ file.id → before.tableNamed name ≠ .ok other →
    after.entry? other = before.entry? other

theorem tableNamed_eq_ok {catalog : Catalog} {name : String} {table : TableId} :
    catalog.tableNamed name = .ok table ↔ catalog.names[name]? = some table := by
  unfold tableNamed
  cases catalog.names[name]? with
  | none => simp
  | some found => simp

theorem nameOf_eq_ok {catalog : Catalog} {table : TableId} {name : String} :
    catalog.nameOf table = .ok name ↔
      (catalog.tables[table]?).map TableEntry.name = some name := by
  unfold nameOf entry?
  cases catalog.tables[table]? with
  | none => simp
  | some entry => simp

theorem file_eq_ok {catalog : Catalog} {table : TableId} {file : TableFile} :
    catalog.file table = .ok file ↔
      ∃ entry, catalog.tables[table]? = some entry ∧ entry.file = file := by
  unfold Catalog.file entry?
  cases catalog.tables[table]? with
  | none => simp
  | some entry => simp

theorem exists_register_eq_error_iff {catalog : Catalog} {file : TableFile} {name : String} :
    (∃ fault, catalog.register file name = .error fault) ↔
      ∃ other, catalog.file file.id = .ok other ∧ other.path ≠ file.path := by
  rcases catalog.register_cases file name with ⟨same, placed⟩ | ⟨entry, found, different, refused⟩
  · rw [placed]
    constructor
    · rintro ⟨fault, impossible⟩
      cases impossible
    · rintro ⟨other, has, different⟩
      obtain ⟨entry, entered, rfl⟩ := file_eq_ok.mp has
      exact absurd (same entry entered) different
  · constructor
    · intro _
      exact ⟨entry.file, file_eq_ok.mpr ⟨entry, found, rfl⟩, different⟩
    · intro _
      exact ⟨_, refused⟩

theorem registered_place (catalog : Catalog) (file : TableFile) (name : String) :
    catalog.Registered (catalog.place file name) file name where
  named := tableNamed_eq_ok.mpr (by rw [names_place, if_pos rfl])
  entered := by
    unfold entry?
    rw [tables_place, if_pos rfl]
  oldName := by
    intro old had different
    unfold tableNamed
    rw [names_place, if_neg (Ne.symm different), if_pos (nameOf_eq_ok.mp had)]
  oldTable := by
    intro old had different
    unfold entry?
    rw [tables_place, if_neg (Ne.symm different), if_pos (tableNamed_eq_ok.mp had)]
  otherNames := by
    intro other different apart
    unfold tableNamed
    rw [names_place, if_neg (Ne.symm different), if_neg (fun had => apart (nameOf_eq_ok.mpr had))]
  otherTables := by
    intro other different apart
    unfold entry?
    rw [tables_place, if_neg (Ne.symm different),
      if_neg (fun had => apart (tableNamed_eq_ok.mpr had))]

/-- After any calls a name belongs to a table just when the table has that name, and each file is
found under its own identifier. A file is refused just when its identifier belongs to a file with
another path; else it comes to be registered under the name, and only what that replaces is gone.
A registration that is made step by step on the catalog itself comes to the same, and one that is
refused leaves the catalog alone. -/
theorem names_and_tables_are_inverse (calls : List Call) :
    let catalog := afterEach calls
    (∀ name table, catalog.tableNamed name = .ok table ↔ catalog.nameOf table = .ok name) ∧
    (∀ table file, catalog.file table = .ok file → file.id = table) ∧
    (∀ file name,
      ((∃ fault, catalog.register file name = .error fault) ↔
        ∃ other, catalog.file file.id = .ok other ∧ other.path ≠ file.path) ∧
      (∀ registered, catalog.register file name = .ok registered →
        catalog.Registered registered file name) ∧
      (registerInPlace file name).run catalog = match catalog.register file name with
        | .ok registered => .ok file.id registered
        | .error fault => .error fault catalog) ∧
    callEach calls = catalog := by
  intro catalog
  have paired : catalog.Paired := paired_empty.foldl_after calls
  refine ⟨?_, ?_, ?_, callEach_eq calls⟩
  · intro name table
    rw [tableNamed_eq_ok, nameOf_eq_ok]
    exact paired.named name table
  · intro table file found
    obtain ⟨entry, entered, rfl⟩ := file_eq_ok.mp found
    exact paired.filed table entry entered
  · intro file name
    refine ⟨exists_register_eq_error_iff, ?_, catalog.run_registerInPlace file name⟩
    intro registered registers
    rw [eq_place_of_register registers]
    exact catalog.registered_place file name

end Catalog

end RowStore
