import RowStore.Database.Basic
import RowStore.Proofs.Catalog

/-!
Setting up: a database is made without tables, files are opened and registered, and tables are
forgotten, all before its first transaction. Whatever the order of such calls, every registered file
is found under its own identifier, no two of them share a path, and the pool is still new.
-/

set_option autoImplicit false

namespace RowStore

/-! ### Sound catalogs -/

namespace Catalog

/-- Every file is registered under its identifier, which is the number of its path. -/
def Sound (catalog : Catalog) (numbering : String → TableId) : Prop :=
  ∀ (table : TableId) (entry : TableEntry), catalog.tables[table]? = some entry →
    entry.file.id = table ∧ numbering entry.file.path = table

theorem sound_empty (numbering : String → TableId) : empty.Sound numbering := by
  intro table entry found
  simp [empty] at found

theorem Sound.register {catalog registered : Catalog} {numbering : String → TableId}
    (sound : catalog.Sound numbering) {file : TableFile}
    (numbered : numbering file.path = file.id) {name : String}
    (registers : catalog.register file name = .ok registered) : registered.Sound numbering := by
  rw [eq_place_of_register registers]
  intro table entry found
  rw [tables_place] at found
  split at found
  · rename_i same
    cases found
    exact ⟨same, numbered.trans same⟩
  · split at found
    · cases found
    · exact sound table entry found

theorem Sound.file {catalog : Catalog} {numbering : String → TableId}
    (sound : catalog.Sound numbering) {table : TableId} {file : TableFile}
    (found : catalog.file table = .ok file) : file.id = table ∧ numbering file.path = table := by
  obtain ⟨entry, registered, rfl⟩ := file_eq_ok.mp found
  exact sound table entry registered

theorem Sound.path_ne {catalog : Catalog} {numbering : String → TableId}
    (sound : catalog.Sound numbering) {first second : TableId} {left right : TableFile}
    (foundLeft : catalog.file first = .ok left) (foundRight : catalog.file second = .ok right)
    (different : first ≠ second) : left.path ≠ right.path := by
  intro same
  have numbered := (sound.file foundLeft).2
  rw [same, (sound.file foundRight).2] at numbered
  exact different numbered.symm

end Catalog

/-! ### Calls before the first transaction -/

namespace Database

inductive SetUp : Database → Prop where
  | new {settings : Settings} {numbering : String → TableId} {preference : Nat → Nat}
      {volume : Volume} {database : Database}
      (made : Database.new settings numbering preference volume = .ok database) : SetUp database
  | openFile {database opened : Database} {path : String} {opening : Volume.Opening}
      {schema : Schema} {pageSize : Nat} {file : TableFile} (before : SetUp database)
      (opens : database.openFile path opening schema pageSize = .ok (opened, file)) : SetUp opened
  | register {database registered : Database} {file : TableFile} {name : String}
      (before : SetUp database) (numbered : database.numbering file.path = file.id)
      (registers : database.register file name = .ok registered) : SetUp registered
  | clearCatalog {database : Database} (before : SetUp database) : SetUp database.clearCatalog

theorem openFile_eq_ok {database opened : Database} {path : String}
    {opening : Volume.Opening} {schema : Schema} {pageSize : Nat} {file : TableFile} :
    database.openFile path opening schema pageSize = .ok (opened, file) ↔
      database.openFileUnder .taken path opening schema pageSize = (opened, .ok file) := by
  unfold openFile
  rcases database.openFileUnder .taken path opening schema pageSize with ⟨next, fault | own⟩ <;>
    simp

theorem openFileUnder_cases (database : Database) (reception : Volume.Reception) (path : String)
    (opening : Volume.Opening) (schema : Schema) (pageSize : Nat) :
    (∃ fault, database.openFileUnder reception path opening schema pageSize =
      (database, .error fault)) ∨
    ∃ volume, TableFile.checkGeometry schema pageSize = .ok () ∧
      database.volume.openFile path opening = .ok volume ∧
        ((reception = .taken ∧ database.openFileUnder reception path opening schema pageSize =
            ({ database with volume := volume },
              .ok ⟨database.numbering path, path, schema, pageSize⟩)) ∨
          ∃ cause, reception = .unresolved cause ∧
            database.openFileUnder reception path opening schema pageSize =
              ({ database with volume := volume }, .error (.disk cause))) := by
  unfold openFileUnder TableFile.openUnder
  cases TableFile.checkGeometry schema pageSize with
  | error fault => exact .inl ⟨fault, rfl⟩
  | ok _ =>
      cases reception with
      | refused cause => exact .inl ⟨.disk cause, rfl⟩
      | taken =>
          cases database.volume.openFile path opening with
          | error fault => exact .inl ⟨fault, rfl⟩
          | ok volume => exact .inr ⟨volume, rfl, rfl, .inl ⟨rfl, rfl⟩⟩
      | unresolved cause =>
          cases database.volume.openFile path opening with
          | error fault => exact .inl ⟨fault, rfl⟩
          | ok volume => exact .inr ⟨volume, rfl, rfl, .inr ⟨cause, rfl, rfl⟩⟩

theorem openFile_cases {database opened : Database} {path : String}
    {opening : Volume.Opening} {schema : Schema} {pageSize : Nat} {file : TableFile}
    (opens : database.openFile path opening schema pageSize = .ok (opened, file)) :
    ∃ volume, TableFile.checkGeometry schema pageSize = .ok () ∧
      database.volume.openFile path opening = .ok volume ∧
        opened = { database with volume := volume } ∧
          file = ⟨database.numbering path, path, schema, pageSize⟩ := by
  rw [openFile_eq_ok] at opens
  rcases database.openFileUnder_cases .taken path opening schema pageSize with
    ⟨fault, fails⟩ | ⟨volume, checked, written, ⟨_, answers⟩ | ⟨_, impossible, _⟩⟩
  · rw [fails] at opens
    cases opens
  · rw [answers] at opens
    cases opens
    exact ⟨volume, checked, written, rfl, rfl⟩
  · cases impossible

theorem openFile_of_checked {database : Database} {path : String} {opening : Volume.Opening}
    {schema : Schema} {pageSize : Nat} {volume : Volume}
    (checked : TableFile.checkGeometry schema pageSize = .ok ())
    (opens : database.volume.openFile path opening = .ok volume) :
    database.openFile path opening schema pageSize = .ok
      ({ database with volume := volume }, ⟨database.numbering path, path, schema, pageSize⟩) := by
  unfold openFile openFileUnder TableFile.openUnder
  rw [checked, opens]

theorem createTable_eq (database : Database) (path : String) (schema : Schema) (name : String) :
    database.createTable path schema name =
      match database.openFile path .truncating schema database.settings.pageSize with
      | .ok (opened, file) => opened.adopt file name
      | .error fault => (database, .error (.creating path fault)) := by
  unfold createTable createTableUnder openFile
  rcases database.openFileUnder_cases .taken path .truncating schema
    database.settings.pageSize with ⟨fault, fails⟩ | ⟨_, _, _, ⟨_, answers⟩ | ⟨_, impossible, _⟩⟩
  · rw [fails]
  · rw [answers]
  · cases impossible

theorem openTable_eq (database : Database) (path : String) (schema : Schema) (name : String) :
    database.openTable path schema name =
      if database.volume.contains path then
        match database.openFile path .keeping schema database.settings.pageSize with
        | .ok (opened, file) => opened.adopt file name
        | .error fault => (database, .error (.opening path fault))
      else (database, .error (.noSuchFile path)) := by
  unfold openTable openTableUnder openFile
  rcases database.openFileUnder_cases .taken path .keeping schema
    database.settings.pageSize with ⟨fault, fails⟩ | ⟨_, _, _, ⟨_, answers⟩ | ⟨_, impossible, _⟩⟩
  · rw [fails]
  · rw [answers]
  · cases impossible

theorem register_cases {database registered : Database} {file : TableFile} {name : String}
    (registers : database.register file name = .ok registered) :
    ∃ catalog, database.catalog.register file name = .ok catalog ∧
      registered = { database with catalog := catalog } := by
  unfold Database.register at registers
  cases added : database.catalog.register file name with
  | error fault =>
      rw [added] at registers
      cases registers
  | ok catalog =>
      rw [added] at registers
      cases registers
      exact ⟨catalog, rfl, rfl⟩

theorem eq_of_new {settings : Settings} {numbering : String → TableId} {preference : Nat → Nat}
    {volume : Volume} {database : Database}
    (made : Database.new settings numbering preference volume = .ok database) :
    0 < settings.poolPages ∧ database = ⟨settings, numbering, Catalog.empty,
      Pool.new settings.poolPages preference, volume⟩ := by
  unfold Database.new at made
  cases valid : settings.validate with
  | error fault =>
      rw [valid] at made
      cases made
  | ok _ =>
      rw [valid] at made
      cases made
      refine ⟨Nat.pos_of_ne_zero ?_, rfl⟩
      intro none
      unfold Settings.validate at valid
      rw [if_pos none] at valid
      cases valid

theorem SetUp.adopt {database : Database} (before : database.SetUp) {file : TableFile}
    (numbered : database.numbering file.path = file.id) (name : String) :
    (database.adopt file name).1.SetUp := by
  unfold Database.adopt
  split
  · rename_i registers
    exact .register before numbered registers
  · exact before

theorem SetUp.createTable {database : Database} (before : database.SetUp) (path : String)
    (schema : Schema) (name : String) : (database.createTable path schema name).1.SetUp := by
  rw [createTable_eq]
  split
  · rename_i opens
    obtain ⟨_, _, _, rfl, rfl⟩ := openFile_cases opens
    exact (SetUp.openFile before opens).adopt rfl name
  · exact before

theorem SetUp.openTable {database : Database} (before : database.SetUp) (path : String)
    (schema : Schema) (name : String) : (database.openTable path schema name).1.SetUp := by
  rw [openTable_eq]
  split
  · split
    · rename_i opens
      obtain ⟨_, _, _, rfl, rfl⟩ := openFile_cases opens
      exact (SetUp.openFile before opens).adopt rfl name
    · exact before
  · exact before

theorem SetUp.sound {database : Database} (setUp : database.SetUp) :
    database.catalog.Sound database.numbering := by
  induction setUp with
  | new made =>
      rw [(eq_of_new made).2]
      exact Catalog.sound_empty _
  | openFile _ opens ih =>
      obtain ⟨_, _, _, rfl, _⟩ := openFile_cases opens
      exact ih
  | register _ numbered registers ih =>
      obtain ⟨catalog, added, rfl⟩ := register_cases registers
      exact ih.register numbered added
  | clearCatalog _ _ => exact Catalog.sound_empty _

theorem SetUp.pool {database : Database} (setUp : database.SetUp) :
    ∃ capacity preference, database.pool = Pool.new capacity preference := by
  induction setUp with
  | new made => exact ⟨_, _, congrArg Database.pool (eq_of_new made).2⟩
  | openFile _ opens ih =>
      obtain ⟨_, _, _, rfl, _⟩ := openFile_cases opens
      exact ih
  | register _ numbered registers ih =>
      obtain ⟨catalog, _, rfl⟩ := register_cases registers
      exact ih
  | clearCatalog _ ih => exact ih

theorem SetUp.roomy {database : Database} (setUp : database.SetUp) :
    0 < database.pool.capacity := by
  induction setUp with
  | new made =>
      rw [(eq_of_new made).2]
      exact (eq_of_new made).1
  | openFile _ opens ih =>
      obtain ⟨_, _, _, rfl, _⟩ := openFile_cases opens
      exact ih
  | register _ numbered registers ih =>
      obtain ⟨catalog, _, rfl⟩ := register_cases registers
      exact ih
  | clearCatalog _ ih => exact ih

end Database

end RowStore
