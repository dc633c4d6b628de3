import RowStore.Proofs.Database.Ending

/-!
Upkeep: no step of a transaction changes the catalog or the folders, removes a file or a page,
overfills the pool, or leaves a page unreadable in a table whose pages can all be read.
-/

set_option autoImplicit false

namespace RowStore.Database

/-- A page of the table has room for a row, and every page on the disk can be read. -/
def Readable (database : Database) (table : TableId) : Prop :=
  ∀ file, database.catalog.file table = .ok file →
    TableFile.checkGeometry file.schema file.pageSize = .ok () ∧
      ∀ number, number < file.pageCount database.volume →
        ∃ content, file.readPage database.volume (file.pageId number) = .ok content

structure Keeps (database next : Database) : Prop where
  catalog : next.catalog = database.catalog
  pool : database.pool.Keeps next.pool
  folders : next.volume.folders = database.volume.folders
  present : ∀ path, database.volume.files.contains path = true →
    next.volume.files.contains path = true
  grows : ∀ numbering table file, database.catalog.Sound numbering →
    database.catalog.file table = .ok file →
      file.pageCount database.volume ≤ file.pageCount next.volume
  readable : ∀ numbering table, database.catalog.Sound numbering → database.Readable table →
    next.Readable table

theorem Keeps.refl (database : Database) : database.Keeps database :=
  ⟨rfl, .refl _, rfl, fun _ found => found, fun _ _ _ _ _ => Nat.le_refl _,
    fun _ _ _ readable => readable⟩

theorem Keeps.trans {first second third : Database} (start : first.Keeps second)
    (rest : second.Keeps third) : first.Keeps third where
  catalog := rest.catalog.trans start.catalog
  pool := start.pool.trans rest.pool
  folders := rest.folders.trans start.folders
  present := fun path found => rest.present path (start.present path found)
  grows := by
    intro numbering table file sound registered
    have first := start.grows numbering table file sound registered
    rw [← start.catalog] at sound registered
    exact Nat.le_trans first (rest.grows numbering table file sound registered)
  readable := by
    intro numbering table sound readable
    have kept := start.readable numbering table sound readable
    rw [← start.catalog] at sound
    exact rest.readable numbering table sound kept

/-! ### In the pool -/

section

variable {database : Database}

theorem Keeps.of_pool {pool : Pool} (keeps : database.pool.Keeps pool) :
    database.Keeps { database with pool := pool } :=
  ⟨rfl, keeps, rfl, fun _ found => found, fun _ _ _ _ _ => Nat.le_refl _,
    fun _ _ _ readable => readable⟩

theorem keeps_setLocks (database : Database) (locks : LockTable) :
    database.Keeps (database.setLocks locks) :=
  .of_pool ⟨rfl, fun fits => fits⟩

theorem keeps_noteAccess (database : Database) (transaction : TransactionId) (page : PageId)
    (access : Access) : database.Keeps (database.noteAccess transaction page access) := by
  cases access with
  | read => exact .refl database
  | write => exact .of_pool ⟨rfl, fun fits => fits⟩

theorem keeps_setFrame (database : Database) (frame : Nat) (page : Page) :
    database.Keeps (database.setFrame frame page) :=
  .of_pool ⟨rfl, fun fits => fits⟩

theorem keeps_load (sound : database.pool.Sound) {loaded : Database} {page : PageId} {frame : Nat}
    {content : Page} (loads : database.load page = .ok (loaded, frame, content)) :
    database.Keeps loaded := by
  obtain ⟨pool, rfl, takes, _⟩ := load_cases sound loads
  exact .of_pool takes.keeps

theorem keeps_absorb (database : Database) (transaction : TransactionId) (frame : Nat)
    (page : Page) : database.Keeps (database.absorb transaction frame page).1 := by
  have noted := (database.keeps_setFrame frame (page.mark (some transaction))).trans
    (keeps_noteAccess _ transaction page.id .write)
  unfold absorb
  dsimp only
  split
  · rename_i pool installs
    exact noted.trans (.of_pool (Pool.keeps_install installs))
  · exact noted

theorem keeps_dismiss (database : Database) (transaction : TransactionId) :
    database.Keeps (database.dismiss transaction) := by
  refine .of_pool ?_
  have discarded := database.pool.keeps_discardEach (database.pool.writtenBy transaction)
  exact ⟨discarded.capacity, discarded.fits⟩

/-! ### On the disk -/

theorem keeps_appendEmptyPage {table : TableId} {file : TableFile}
    (registered : database.catalog.file table = .ok file) :
    database.Keeps (database.appendEmptyPage file).1 := by
  have apart {numbering : String → TableId} {other : TableId} {own : TableFile}
      (sound : database.catalog.Sound numbering)
      (registeredOwn : database.catalog.file other = .ok own) (different : other ≠ table) :
      own.pageCount (file.appendEmptyPage database.volume).1 = own.pageCount database.volume :=
    TableFile.pageCount_write_of_ne (sound.path_ne registered registeredOwn (Ne.symm different)) _ _
  refine ⟨rfl, .refl _, rfl, ?_, ?_, ?_⟩
  · intro path found
    change (database.volume.files.insert file.path _).contains path = true
    rw [Std.ExtTreeMap.contains_insert, found, Bool.or_true]
  · intro numbering other own sound registeredOwn
    change _ ≤ own.pageCount (file.appendEmptyPage database.volume).1
    by_cases same : other = table
    · rw [same, registered] at registeredOwn
      cases registeredOwn
      rcases Nat.eq_zero_or_pos file.pageSize with none | positive
      · unfold TableFile.pageCount PagedFile.pageCount TableFile.pages
        dsimp only
        rw [none, Nat.div_zero]
        exact Nat.zero_le _
      · rw [TableFile.pageCount_appendEmptyPage positive]
        exact Nat.le_succ _
    · exact Nat.le_of_eq (apart sound registeredOwn same).symm
  · intro numbering other sound readable own registeredOwn
    change database.catalog.file other = .ok own at registeredOwn
    obtain ⟨checked, pages⟩ := readable own registeredOwn
    refine ⟨checked, ?_⟩
    intro number present
    by_cases same : other = table
    · rw [same, registered] at registeredOwn
      cases registeredOwn
      obtain ⟨_, positive⟩ := TableFile.pos_of_checkGeometry checked
      change number < file.pageCount (file.appendEmptyPage database.volume).1 at present
      rw [TableFile.pageCount_appendEmptyPage positive] at present
      rcases Nat.lt_succ_iff_lt_or_eq.mp present with before | added
      · obtain ⟨content, read⟩ := pages number before
        rcases file.readPage_appendEmptyPage database.volume (file.pageId number) with
          kept | ⟨unread, _⟩
        · exact ⟨content, kept.trans read⟩
        · exact absurd read (unread content)
      · obtain ⟨content, read, _⟩ := TableFile.readPage_appended checked database.volume
        rw [added]
        exact ⟨content, read⟩
    · change number < own.pageCount (file.appendEmptyPage database.volume).1 at present
      rw [apart sound registeredOwn same] at present
      obtain ⟨content, read⟩ := pages number present
      have paths := sound.path_ne registered registeredOwn (Ne.symm same)
      exact ⟨content, (TableFile.readPage_write_of_ne paths database.volume _ _).trans read⟩

theorem Flushed.keeps_all {flushed : Database} {done : List PageId}
    (before : database.Flushed flushed done) : database.Keeps flushed := by
  have count (file : TableFile) :
      file.pageCount flushed.volume = file.pageCount database.volume := by
    unfold TableFile.pageCount PagedFile.pageCount TableFile.pages
    rw [before.overwritten.lengths]
  refine ⟨before.catalog, before.keeps, before.overwritten.folders, ?_, ?_, ?_⟩
  · intro path found
    exact (before.overwritten.present path).trans found
  · intro numbering table file sound registered
    exact Nat.le_of_eq (count file).symm
  · intro numbering table sound readable file registered
    rw [before.catalog] at registered
    obtain ⟨checked, pages⟩ := readable file registered
    refine ⟨checked, ?_⟩
    intro number present
    rw [count] at present
    obtain ⟨content, read⟩ := pages number present
    obtain ⟨rfl, _⟩ := sound.file registered
    have onDisk : database.diskPage? (file.pageId number) = some content :=
      diskPage?_eq_some.mpr ⟨file, registered, read⟩
    obtain ⟨again, after⟩ : ∃ again, flushed.diskPage? (file.pageId number) = some again := by
      rw [before.disk]
      split
      · split
        · exact ⟨_, rfl⟩
        · exact ⟨content, onDisk⟩
      · exact ⟨content, onDisk⟩
    obtain ⟨own, registeredOwn, readOwn⟩ := diskPage?_eq_some.mp after
    rw [before.catalog] at registeredOwn
    cases registered.symm.trans registeredOwn
    exact ⟨again, readOwn⟩

theorem Isolated.keeps_commit {start : Database} {journal : Journal}
    (isolated : database.Isolated start journal) (setUp : start.SetUp)
    (transaction : TransactionId) : database.Keeps (database.commit transaction).1 := by
  obtain ⟨flushed, writes, before⟩ :=
    isolated.flushEach setUp (.nothing isolated.sound) (database.pool.writtenBy transaction)
  unfold Database.commit flushTransaction
  rw [writes]
  exact before.keeps_all.trans (flushed.keeps_dismiss transaction)

end

end RowStore.Database
