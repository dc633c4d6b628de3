import RowStore.Proofs.Database.Setup
import RowStore.Proofs.TableFile

/-!
Opening tables: what a database has once a table was made in it, and that a table whose file is
there can be opened again, which leaves the disk as it was.
-/

set_option autoImplicit false

namespace RowStore

namespace TableFile

theorem pageCount_write_nil (file : TableFile) (volume : Volume) :
    file.pageCount (volume.write file.path []) = 0 := by
  unfold pageCount
  rw [pages_write]
  exact Nat.zero_div _

end TableFile

/-! ### Tables -/

namespace Catalog

theorem file_of_register {catalog registered : Catalog} {file : TableFile} {name : String}
    (registers : catalog.register file name = .ok registered) :
    registered.file file.id = .ok file := by
  rw [eq_place_of_register registers, file_eq_ok]
  exact ⟨⟨name, file⟩, by rw [tables_place, if_pos rfl], rfl⟩

end Catalog

namespace Database

section

variable {database next : Database} {path name : String} {schema : Schema} {pageSize : Nat}
  {opening : Volume.Opening} {file adopted : TableFile}

private theorem adopt_cases (adopts : database.adopt file name = (next, .ok adopted)) :
    ∃ catalog, database.catalog.register file name = .ok catalog ∧ adopted = file ∧
      next = { database with catalog := catalog } := by
  unfold Database.adopt at adopts
  split at adopts
  · rename_i registers
    obtain ⟨catalog, added, rfl⟩ := register_cases registers
    cases adopts
    exact ⟨catalog, added, rfl, rfl⟩
  · cases adopts

private theorem openFile_eq (checked : TableFile.checkGeometry schema pageSize = .ok ())
    (admits : database.volume.Admits path) (opening : Volume.Opening) :
    database.openFile path opening schema pageSize = .ok
      ({ database with volume := database.volume.write path (match opening with
          | .truncating => []
          | .keeping => database.volume.bytes path) },
        ⟨database.numbering path, path, schema, pageSize⟩) := by
  exact openFile_of_checked checked (admits.openFile opening)

/-- A table that is made has an empty file of its own numbering, which is registered. -/
theorem createTable_cases (creates : database.createTable path schema name = (next, .ok file)) :
    ∃ catalog, file = ⟨database.numbering path, path, schema, database.settings.pageSize⟩ ∧
      TableFile.checkGeometry schema database.settings.pageSize = .ok () ∧
        database.volume.Admits path ∧ database.catalog.register file name = .ok catalog ∧
          next = { database with
            catalog := catalog
            volume := database.volume.write path [] } := by
  rw [createTable_eq] at creates
  split at creates
  · rename_i opened own opens
    obtain ⟨volume, checked, truncates, rfl, rfl⟩ := openFile_cases opens
    have admits := Volume.admits_of_openFile truncates
    rw [admits.openFile] at truncates
    cases truncates
    obtain ⟨catalog, registers, rfl, rfl⟩ := adopt_cases creates
    exact ⟨catalog, rfl, checked, admits, registers, rfl⟩
  · cases creates

end

structure Created (database : Database) (file : TableFile) : Prop where
  setUp : database.SetUp
  registered : database.catalog.file file.id = .ok file
  numbered : database.numbering file.path = file.id
  checked : TableFile.checkGeometry file.schema file.pageSize = .ok ()
  admits : database.volume.Admits file.path
  present : database.volume.files.contains file.path = true
  empty : file.pageCount database.volume = 0

theorem SetUp.created {before start : Database} (setUp : before.SetUp) {path name : String}
    {schema : Schema} {file : TableFile}
    (creates : before.createTable path schema name = (start, .ok file)) : start.Created file := by
  have later : start.SetUp := by
    have kept := setUp.createTable path schema name
    rw [creates] at kept
    exact kept
  obtain ⟨catalog, rfl, checked, admits, registers, rfl⟩ := createTable_cases creates
  exact ⟨later, Catalog.file_of_register registers, rfl, checked, admits.of_folders rfl,
    Std.ExtTreeMap.contains_insert_self, TableFile.pageCount_write_nil _ _⟩

/-- A table whose file is there can be opened in a new database, and the disk stays as it is. -/
theorem openTable_of_new {settings : Settings} {numbering : String → TableId}
    {preference : Nat → Nat} {volume : Volume} {fresh : Database}
    (made : Database.new settings numbering preference volume = .ok fresh) {file : TableFile}
    (pageSize : settings.pageSize = file.pageSize) (numbered : numbering file.path = file.id)
    (checked : TableFile.checkGeometry file.schema file.pageSize = .ok ())
    (admits : volume.Admits file.path) (present : volume.files.contains file.path = true)
    (name : String) :
    ∃ opened, fresh.openTable file.path file.schema name = (opened, .ok file) ∧ opened.SetUp ∧
      opened.catalog.file file.id = .ok file ∧ opened.volume = volume := by
  have kept := (SetUp.new made).openTable file.path file.schema name
  obtain ⟨_, rfl⟩ := eq_of_new made
  have registers : Catalog.empty.register file name = .ok (Catalog.empty.place file name) := by
    unfold Catalog.register Catalog.empty
    simp
  have opens : Database.openTable ⟨settings, numbering, Catalog.empty,
      Pool.new settings.poolPages preference, volume⟩ file.path file.schema name =
        (⟨settings, numbering, Catalog.empty.place file name,
          Pool.new settings.poolPages preference, volume⟩, .ok file) := by
    have there : volume.contains file.path = true := by
      unfold Volume.contains
      rw [present]
      rfl
    rw [openTable_eq]
    rw [if_pos there]
    dsimp only
    rw [pageSize, openFile_eq checked admits]
    dsimp only
    rw [Volume.write_bytes_self present, numbered]
    unfold Database.adopt Database.register
    dsimp only
    rw [registers]
    rfl
  rw [opens] at kept
  exact ⟨_, opens, kept, Catalog.file_of_register registers, rfl⟩

end Database

end RowStore
