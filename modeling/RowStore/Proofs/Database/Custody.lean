import RowStore.Proofs.Database.Agreement
import RowStore.Proofs.Database.Setup
import RowStore.Proofs.Disk.PagedFile

/-!
Custody: a page with changes stays in the pool until it is written back or dropped on purpose, and
a page of the disk stays as it is until one is written over it. Loading pages, changing them and
adding empty ones keep to this; writing back leaves on the disk what a page had in memory.
-/

set_option autoImplicit false

namespace RowStore.Database

/-! ### Pages of the disk -/

/-- The bytes of a page of a registered table, if its file reaches the end of that page. -/
def image? (database : Database) (page : PageId) : Option (List UInt8) :=
  match database.catalog.file page.table with
  | .ok file => ((file.pages database.volume).read page.number file.pageSize).toOption
  | .error _ => none

def putImage (database : Database) (file : TableFile) (number : Nat) (data : List UInt8) :
    Database :=
  { database with
    volume := database.volume.write file.path
      ((file.pages database.volume).put number data).bytes }

section

variable {database : Database} {table : TableId} {file : TableFile}

theorem image?_eq_some {page : PageId} {bytes : List UInt8} :
    database.image? page = some bytes ↔
      ∃ file, database.catalog.file page.table = .ok file ∧
        (file.pages database.volume).read page.number file.pageSize = .ok bytes := by
  unfold image?
  cases registered : database.catalog.file page.table with
  | error fault => simp
  | ok file =>
      cases read : (file.pages database.volume).read page.number file.pageSize with
      | error fault => simp [Except.toOption, read]
      | ok found => simp [Except.toOption, read]

theorem pages_putImage (database : Database) (file : TableFile) (number : Nat)
    (data : List UInt8) :
    file.pages (database.putImage file number data).volume =
      (file.pages database.volume).put number data :=
  file.pages_write database.volume _

theorem image?_putImage_self (registered : database.catalog.file table = .ok file)
    (number : Nat) {data : List UInt8} (length : data.length = file.pageSize) :
    (database.putImage file number data).image? ⟨table, number⟩ = some data := by
  have back : ((file.pages database.volume).put number data).read number file.pageSize =
      .ok data := PagedFile.read_put_self length
  refine image?_eq_some.mpr ⟨file, registered, ?_⟩
  rw [pages_putImage]
  exact back

/-- A page is as before where another one was put, be it of the same file or not. -/
theorem image?_putImage_of_ne {numbering : String → TableId}
    (catalog : database.catalog.Sound numbering)
    (registered : database.catalog.file table = .ok file) {number : Nat} {data : List UInt8}
    (length : data.length = file.pageSize) {page : PageId} (different : page ≠ ⟨table, number⟩)
    {bytes : List UInt8} (onDisk : database.image? page = some bytes) :
    (database.putImage file number data).image? page = some bytes := by
  obtain ⟨own, found, read⟩ := image?_eq_some.mp onDisk
  refine image?_eq_some.mpr ⟨own, found, ?_⟩
  by_cases sameTable : page.table = table
  · rw [sameTable, registered] at found
    cases found
    have apart : page.number ≠ number := by
      intro sameNumber
      apply different
      rw [PageId.mk.injEq]
      exact ⟨sameTable, sameNumber⟩
    have kept : ((file.pages database.volume).put number data).read page.number file.pageSize =
        .ok bytes := PagedFile.read_put_of_ne (Nat.le_of_eq length) apart read
    rw [pages_putImage]
    exact kept
  · have apart : file.path ≠ own.path := catalog.path_ne registered found (Ne.symm sameTable)
    unfold putImage
    dsimp only
    rw [TableFile.pages_write_of_ne apart]
    exact read

theorem image?_appendEmptyPage {numbering : String → TableId}
    (catalog : database.catalog.Sound numbering)
    (registered : database.catalog.file table = .ok file) {page : PageId} {bytes : List UInt8}
    (onDisk : database.image? page = some bytes) :
    (database.appendEmptyPage file).1.image? page = some bytes := by
  have length : (Page.emptyImage file.pageSize).length = file.pageSize := List.length_replicate
  change (database.putImage file (file.pageCount database.volume)
    (Page.emptyImage file.pageSize)).image? page = some bytes
  by_cases added : page = ⟨table, file.pageCount database.volume⟩
  · subst added
    obtain ⟨own, found, read⟩ := image?_eq_some.mp onDisk
    cases registered.symm.trans found
    -- Only pages without bytes are there already.
    obtain ⟨size, rfl⟩ := PagedFile.eq_nil_of_read_pageCount read
    change file.pageSize = 0 at size
    rw [image?_putImage_self registered _ length, size]
    rfl
  · exact image?_putImage_of_ne catalog registered length added onDisk

end

/-! ### Nothing lost, nothing written -/

/-- Between the two databases no page with changes has left the pool, and no page of the disk has
changed. -/
structure Spares (database next : Database) : Prop where
  catalog : next.catalog = database.catalog
  keeps : database.pool.Keeps next.pool
  retains : database.pool.Retains next.pool
  sound : next.pool.Sound
  unsaved : ∀ page frame content, database.pool.residentFrame? page = some (frame, content) →
    content.isDirty = true →
      ∃ changed, next.pool.residentFrame? page = some (frame, changed) ∧ changed.isDirty = true
  images : ∀ page bytes, database.image? page = some bytes → next.image? page = some bytes

theorem Spares.trans {first second third : Database} (start : first.Spares second)
    (rest : second.Spares third) : first.Spares third where
  catalog := rest.catalog.trans start.catalog
  keeps := start.keeps.trans rest.keeps
  retains := start.retains.trans rest.retains
  sound := rest.sound
  unsaved := by
    intro page frame content found dirty
    obtain ⟨changed, kept, still⟩ := start.unsaved page frame content found dirty
    exact rest.unsaved page frame changed kept still
  images := fun page bytes onDisk => rest.images page bytes (start.images page bytes onDisk)

section

variable {database : Database}

theorem Spares.of_pool {pool : Pool} (keeps : database.pool.Keeps pool)
    (retains : database.pool.Retains pool) (sound : pool.Sound)
    (unsaved : ∀ page frame content, database.pool.residentFrame? page = some (frame, content) →
      content.isDirty = true →
        ∃ changed, pool.residentFrame? page = some (frame, changed) ∧ changed.isDirty = true) :
    database.Spares { database with pool := pool } :=
  ⟨rfl, keeps, retains, sound, unsaved, fun _ _ onDisk => onDisk⟩

theorem Spares.refl (sound : database.pool.Sound) : database.Spares database :=
  .of_pool (.refl _) (.refl _) sound (fun _ _ content found dirty => ⟨content, found, dirty⟩)

theorem spares_setLocks (sound : database.pool.Sound) (locks : LockTable) :
    database.Spares (database.setLocks locks) :=
  .of_pool ⟨rfl, fun fits => fits⟩ (.of_frames (Nat.le_refl _) rfl) sound
    (fun _ _ content found dirty => ⟨content, found, dirty⟩)

theorem spares_noteAccess (sound : database.pool.Sound) (transaction : TransactionId)
    (page : PageId) (access : Access) :
    database.Spares (database.noteAccess transaction page access) := by
  cases access with
  | read => exact .refl sound
  | write =>
      exact .of_pool ⟨rfl, fun fits => fits⟩ (.of_frames (Nat.le_refl _) rfl) sound
        (fun _ _ content found dirty => ⟨content, found, dirty⟩)

theorem spares_setFrame (sound : database.pool.Sound) {frame : Nat} {content changed : Page}
    (held : database.pool.frames[frame]? = some content) (id : changed.id = content.id)
    (dirty : changed.isDirty = true) : database.Spares (database.setFrame frame changed) := by
  refine .of_pool ⟨rfl, fun fits => fits⟩ (Pool.retains_setFrame held id)
    (sound.setFrame_of_held held id) ?_
  intro other frameOther old found dirtyOld
  refine ⟨_, Pool.residentFrame?_setFrame_of_found found frame changed, ?_⟩
  split
  · exact dirty
  · exact dirtyOld

/-- A page is taken that was not in the pool, or was there with the same content. -/
theorem spares_of_takes {pool : Pool} {page : PageId} {frame : Nat} {content : Page}
    (takes : database.pool.Takes pool page frame content)
    (same : ∀ held old, database.pool.residentFrame? page = some (held, old) →
      held = frame ∧ old = content) : database.Spares { database with pool := pool } := by
  refine .of_pool takes.keeps takes.retains takes.sound ?_
  intro other held old found dirty
  by_cases taken : other = page
  · subst taken
    obtain ⟨rfl, rfl⟩ := same held old found
    exact ⟨old, takes.found, dirty⟩
  · exact ⟨old, takes.stays taken found dirty, dirty⟩

theorem spares_load (sound : database.pool.Sound) {loaded : Database} {page : PageId} {frame : Nat}
    {content : Page} (loads : database.load page = .ok (loaded, frame, content)) :
    database.Spares loaded ∧ loaded.pool.residentFrame? page = some (frame, content) := by
  obtain ⟨pool, rfl, takes, origin⟩ := load_cases sound loads
  refine ⟨spares_of_takes takes ?_, takes.found⟩
  intro held old found
  rcases origin with resident | ⟨absent, _⟩
  · cases found.symm.trans resident
    exact ⟨rfl, rfl⟩
  · cases found.symm.trans absent

theorem spares_appendEmptyPage {numbering : String → TableId}
    (catalog : database.catalog.Sound numbering) (sound : database.pool.Sound) {table : TableId}
    {file : TableFile} (registered : database.catalog.file table = .ok file) :
    database.Spares (database.appendEmptyPage file).1 where
  catalog := rfl
  keeps := .refl _
  retains := .refl _
  sound := sound
  unsaved := fun _ _ content found dirty => ⟨content, found, dirty⟩
  images := fun _ _ onDisk => image?_appendEmptyPage catalog registered onDisk

end

/-! ### Writing back -/

section

variable {database next : Database}

theorem flushPage_cases {page : PageId} {frame : Nat} {content : Page}
    (sound : database.pool.Sound)
    (found : database.pool.residentFrame? page = some (frame, content))
    (dirty : content.isDirty = true) (flushes : database.flushPage page = .ok next) :
    ∃ file, database.catalog.file page.table = .ok file ∧
      content.encode.length = file.pageSize ∧
        next = (database.putImage file page.number content.encode).setFrame frame
          (content.mark none) := by
  rw [flushPage_of_unsaved found dirty] at flushes
  cases registered : database.catalog.file page.table with
  | error fault =>
      rw [registered] at flushes
      cases flushes
  | ok file =>
      rw [registered] at flushes
      dsimp only [Except.bind] at flushes
      cases writes : file.writePage database.volume content with
      | error fault =>
          rw [writes] at flushes
          cases flushes
      | ok volume =>
          rw [writes] at flushes
          cases flushes
          obtain ⟨length, rfl⟩ := TableFile.writePage_cases writes
          rw [← sound.id_eq found]
          exact ⟨file, rfl, length, rfl⟩

end

end RowStore.Database
