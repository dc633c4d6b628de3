import RowStore.Proofs.Database.Halts
import RowStore.Proofs.Database.Slots

/-!
Changes that come to nothing: whatever an insertion or a deletion does before it stores or deletes a
row damages nothing. It may drop clean pages, bring pages in from the disk, and add one page.
-/

set_option autoImplicit false

namespace RowStore

/-! ### Pages that are added -/

namespace TableFile

theorem pageCount_le_write (file other : TableFile) (volume : Volume) {bytes : List UInt8}
    (longer : (volume.bytes other.path).length ≤ bytes.length) :
    file.pageCount volume ≤ file.pageCount (volume.write other.path bytes) := by
  by_cases same : other.path = file.path
  · unfold pageCount
    rw [same] at longer ⊢
    rw [pages_write]
    exact Nat.div_le_div_right longer
  · exact Nat.le_of_eq (pageCount_write_of_ne same volume _).symm

theorem pageCount_le_put (file other : TableFile) (volume : Volume) (number : Nat)
    (data : List UInt8) : file.pageCount volume ≤ file.pageCount
      (volume.write other.path ((other.pages volume).put number data).bytes) := by
  apply file.pageCount_le_write other volume
  have length := PagedFile.length_splice (other.pages volume).bytes data
    (number * (other.pages volume).pageSize)
  exact Nat.le_trans (Nat.le_max_left _ _) (Nat.le_of_eq length.symm)

theorem pageCount_le_putInPart (file other : TableFile) (volume : Volume) (number : Nat)
    (data : List UInt8) (written : Nat) : file.pageCount volume ≤ file.pageCount
      (volume.write other.path ((other.pages volume).putInPart number data written).bytes) := by
  unfold PagedFile.putInPart
  split
  · exact file.pageCount_le_write other volume (Nat.le_refl _)
  · exact file.pageCount_le_put other volume number _

/-- The page that was added last is not full, if it can be read at all. -/
theorem isFull_of_added {file : TableFile} {volume : Volume} {content : Page}
    (read : file.readPage (file.appendEmptyPage volume).1
      (file.pageId (file.pageCount volume)) = .ok content) : content.isFull = false := by
  have wellFormed := (wellFormed_of_readPage read).1
  rcases file.readPage_appendEmptyPage volume (file.pageId (file.pageCount volume)) with
    same | ⟨_, empty⟩
  · rw [same] at read
    exact absurd (lt_pageCount_of_readPage read).2 (Nat.lt_irrefl _)
  · rw [Bool.eq_false_iff]
    intro full
    have used := wellFormed.isSome_of_isFull full wellFormed.inhabited
    rw [empty content read] at used
    cases used

end TableFile

namespace Database

/-! ### Nothing damaged -/

/-- Between the two databases no page with changes has left the pool, and every page that is there
now is as it was, or clean and as it is on the disk. Whoever has a frame finds it as it was. What
could be read of the disk is read as before, and all locks are still held. -/
structure Undamaged (before after : Database) : Prop where
  catalog : after.catalog = before.catalog
  frames : ∀ (frame : Nat) content, before.pool.frames[frame]? = some content →
    after.pool.frames[frame]? = some content
  dirty : ∀ page frame content, before.pool.residentFrame? page = some (frame, content) →
    content.isDirty = true → after.pool.residentFrame? page = some (frame, content)
  pages : ∀ page frame content, after.pool.residentFrame? page = some (frame, content) →
    before.pool.residentFrame? page = some (frame, content) ∨
      content.isDirty = false ∧ after.diskPage? page = some content
  disk : ∀ page content, before.diskPage? page = some content →
    after.diskPage? page = some content
  locks : ∀ transaction page held,
    before.pool.locks.lockMode? transaction page = some held →
      ∃ kept, after.pool.locks.lockMode? transaction page = some kept ∧ kept.Covers held

theorem Undamaged.refl (database : Database) : database.Undamaged database :=
  ⟨rfl, fun _ _ held => held, fun _ _ _ found _ => found, fun _ _ _ found => .inl found,
    fun _ _ onDisk => onDisk, fun _ _ held holds => ⟨held, holds, .refl held⟩⟩

theorem Undamaged.trans {first second third : Database} (start : first.Undamaged second)
    (rest : second.Undamaged third) : first.Undamaged third where
  catalog := rest.catalog.trans start.catalog
  frames := fun frame content held => rest.frames frame content (start.frames frame content held)
  dirty := fun page frame content found dirty =>
    rest.dirty page frame content (start.dirty page frame content found dirty) dirty
  pages := by
    intro page frame content found
    rcases rest.pages page frame content found with before | fresh
    · rcases start.pages page frame content before with earlier | ⟨clean, onDisk⟩
      · exact .inl earlier
      · exact .inr ⟨clean, rest.disk page content onDisk⟩
    · exact .inr fresh
  disk := fun page content onDisk => rest.disk page content (start.disk page content onDisk)
  locks := by
    intro transaction page held holds
    obtain ⟨kept, keeps, covers⟩ := start.locks transaction page held holds
    obtain ⟨last, keepsOn, coversOn⟩ := rest.locks transaction page kept keeps
    exact ⟨last, keepsOn, fun alone => coversOn (covers alone)⟩

section

variable {database next : Database} {move : Move} {task : Task}

theorem undamaged_acquire (database : Database) (ticket : Nat) (request : LockRequest) :
    database.Undamaged
      (database.setLocks (database.pool.locks.acquire ticket request).1) :=
  ⟨rfl, fun _ _ held => held, fun _ _ _ found _ => found, fun _ _ _ found => .inl found,
    fun _ _ onDisk => onDisk,
    fun _ _ _ holds => LockTable.lockMode?_acquire_covers ticket request holds⟩

theorem undamaged_grow (steady : database.Steady) {table : TableId} {file : TableFile}
    (registered : database.catalog.file table = .ok file) :
    database.Undamaged (database.appendEmptyPage file).1 :=
  ⟨rfl, fun _ _ held => held, fun _ _ _ found _ => found, fun _ _ _ found => .inl found,
    fun _ _ onDisk => diskPage?_appendEmptyPage_of_some steady.catalog registered onDisk,
    fun _ _ held holds => ⟨held, holds, .refl held⟩⟩

/-- What can be read of the disk is read as before when a page is added in part. -/
theorem undamaged_fray (steady : database.Steady) {table : TableId} {file : TableFile}
    (registered : database.catalog.file table = .ok file) (written : Nat) :
    database.Undamaged (database.appendInPart file written) := by
  refine ⟨rfl, fun _ _ held => held, fun _ _ _ found _ => found, fun _ _ _ found => .inl found, ?_,
    fun _ _ held holds => ⟨held, holds, .refl held⟩⟩
  intro page content onDisk
  obtain ⟨own, found, read⟩ := diskPage?_eq_some.mp onDisk
  obtain ⟨⟨mine, inside⟩, bytes, image, decodes⟩ := TableFile.readPage_eq_ok.mp read
  have kept : (database.appendInPart file written).image? page = some bytes :=
    image?_appendInPart steady.catalog registered written
      (image?_eq_some.mpr ⟨own, found, TableFile.image?_eq_some.mp image⟩)
  obtain ⟨again, foundAgain, image⟩ := image?_eq_some.mp kept
  cases found.symm.trans foundAgain
  refine diskPage?_eq_some.mpr ⟨own, found, TableFile.readPage_eq_ok.mpr
    ⟨⟨mine, ?_⟩, bytes, TableFile.image?_eq_some.mpr image, decodes⟩⟩
  exact Nat.lt_of_lt_of_le inside
    (own.pageCount_le_putInPart file database.volume _ _ written)

/-- A move within the pool that drops a clean page, or brings one in, and keeps all others. -/
private theorem undamaged_of_reframed {pool : Pool} (locks : pool.locks = database.pool.locks)
    (frames : ∀ (frame : Nat) content, database.pool.frames[frame]? = some content →
      pool.frames[frame]? = some content)
    (dirty : ∀ page frame content, database.pool.residentFrame? page = some (frame, content) →
      content.isDirty = true → pool.residentFrame? page = some (frame, content))
    (pages : ∀ page frame content, pool.residentFrame? page = some (frame, content) →
      database.pool.residentFrame? page = some (frame, content) ∨
        content.isDirty = false ∧ database.diskPage? page = some content) :
    database.Undamaged { database with pool := pool } := by
  refine ⟨rfl, frames, dirty, pages, fun _ _ onDisk => onDisk, ?_⟩
  intro transaction page held holds
  refine ⟨held, ?_, .refl held⟩
  change pool.locks.lockMode? transaction page = some held
  rw [locks]
  exact holds

theorem Moves.undamaged_fetch {page : PageId} (moves : database.Moves move next)
    (steady : database.Steady) (fetches : move.Fetches page) : database.Undamaged next := by
  have resident := moves.residentFrame? steady
  unfold Move.reframes at resident
  cases fetches with
  | evict gone =>
      dsimp only at resident
      cases moves with
      | @evict _ frame old foundGone clean free =>
          refine undamaged_of_reframed rfl (fun _ _ held => held) ?_ ?_
          · intro page frame content found dirty
            refine (resident page).trans ((if_neg ?_).trans found)
            rintro rfl
            cases foundGone.symm.trans found
            unfold Page.isDirty at dirty
            rw [clean] at dirty
            cases dirty
          · intro page frame content found
            replace found := (resident page).symm.trans found
            split at found
            · cases found
            · exact .inl found
  | @arrive content mine =>
      dsimp only at resident
      cases moves with
      | arrive absent onDisk =>
          refine undamaged_of_reframed rfl ?_ ?_ ?_
          · intro frame old held
            have apart := Nat.ne_of_gt (steady.frames frame old held).1
            simp only [Pool.receive, Std.ExtTreeMap.getElem?_insert,
              Std.LawfulEqCmp.compare_eq_iff_eq, if_neg apart]
            exact held
          · intro other frame old found _
            refine (resident other).trans ((if_neg ?_).trans found)
            rintro rfl
            cases absent.symm.trans found
          · intro other frame old found
            replace found := (resident other).symm.trans found
            split at found
            · rename_i same
              cases found
              subst same
              refine .inr ⟨?_, onDisk⟩
              unfold Page.isDirty
              rw [(wellFormed_of_diskPage? onDisk).2.2]
              rfl
            · exact .inl found

theorem Moves.undamaged (moves : database.Moves move next) (steady : database.Steady)
    (readies : task.Readies move)
    (own : ∀ file, task.file? = some file → ∃ table, database.catalog.file table = .ok file) :
    database.Undamaged next := by
  cases readies with
  | note _ =>
      cases moves
      exact undamaged_of_reframed rfl (fun _ _ held => held) (fun _ _ _ found _ => found)
        (fun _ _ _ found => .inl found)
  | fetch fetches => exact moves.undamaged_fetch steady fetches
  | grow mine =>
      cases moves
      obtain ⟨table, registered⟩ := own _ mine
      exact undamaged_grow steady registered

theorem undamaged_of_readies (path : Path (fun _ => task.Readies) database next)
    (steady : database.Steady)
    (own : ∀ file, task.file? = some file → ∃ table, database.catalog.file table = .ok file) :
    database.Undamaged next := by
  induction path with
  | here database => exact .refl database
  | on moves readies _ ih =>
      have undamaged := moves.undamaged steady readies own
      rw [← undamaged.catalog] at own
      exact undamaged.trans (ih (moves.steady steady) own)

theorem Frays.undamaged {file? : Option TableFile} (frays : database.Frays file? next)
    (steady : database.Steady)
    (own : ∀ file, file? = some file → ∃ table, database.catalog.file table = .ok file) :
    database.Undamaged next := by
  cases frays with
  | none => exact .refl database
  | part mine written =>
      obtain ⟨table, registered⟩ := own _ mine
      exact undamaged_fray steady registered written

theorem Halts.undamaged (halts : database.Halts task next) (steady : database.Steady)
    (own : ∀ file, task.file? = some file → ∃ table, database.catalog.file table = .ok file) :
    database.Undamaged next := by
  obtain ⟨loaded, path, frays⟩ := halts
  have undamaged := undamaged_of_readies path steady own
  rw [← undamaged.catalog] at own
  exact undamaged.trans (frays.undamaged (path.steady steady) own)

theorem Works.undamaged {result : Database × Progress} (works : database.Works task result)
    (steady : database.Steady)
    (own : ∀ file, task.file? = some file → ∃ table, database.catalog.file table = .ok file)
    (unchanged : task.changes result.2 = []) : database.Undamaged result.1 := by
  cases works.alters with
  | none path _ => exact undamaged_of_readies path steady own
  | one _ _ _ _ _ _ _ _ _ changes => cases changes.symm.trans unchanged

end

/-! ### Pages within their files -/

/-- Every page in the pool is one that its file has. -/
def Stocked (database : Database) : Prop :=
  ∀ page frame content, database.pool.residentFrame? page = some (frame, content) →
    ∃ file, database.catalog.file page.table = .ok file ∧
      page.number < file.pageCount database.volume

section

variable {database next : Database} {move : Move}

theorem Moves.pageCount_le (moves : database.Moves move next) (file : TableFile)
    (kept : move ≠ .reopen file.path .truncating) :
    file.pageCount database.volume ≤ file.pageCount next.volume := by
  cases moves with
  | grow other => exact file.pageCount_le_put other database.volume _ _
  | @save page frame content other _ _ _ _ =>
      exact file.pageCount_le_put other database.volume _ _
  | @reopen path opening volume opens =>
      rw [(Volume.admits_of_openFile opens).openFile] at opens
      by_cases same : path = file.path
      · subst same
        cases opening with
        | truncating => exact absurd rfl kept
        | keeping =>
            cases opens
            unfold TableFile.pageCount
            rw [TableFile.pages_write]
            exact Nat.le_refl _
      · cases opens
        exact Nat.le_of_eq (TableFile.pageCount_write_of_ne same database.volume _).symm
  | _ => exact Nat.le_refl _

theorem Strides.pageCount_le {stride : Stride} (strides : database.Strides stride next)
    (file : TableFile) (kept : stride ≠ .move (.reopen file.path .truncating)) :
    file.pageCount database.volume ≤ file.pageCount next.volume := by
  cases strides with
  | move moves => exact moves.pageCount_le file fun same => kept (congrArg _ same)
  | copy _ _ _ _ _ _ => exact file.pageCount_le_put _ database.volume _ _
  | tear written _ _ _ _ _ => exact file.pageCount_le_putInPart _ database.volume _ _ written
  | fray other written => exact file.pageCount_le_putInPart other database.volume _ _ written
  | empty => exact Nat.le_refl _

theorem Strides.stocked {stride : Stride} (strides : database.Strides stride next)
    (steady : database.Steady) (stocked : database.Stocked)
    (same : next.catalog = database.catalog)
    (kept : ∀ table file, database.catalog.file table = .ok file →
      stride ≠ .move (.reopen file.path .truncating)) : next.Stocked := by
  intro page frame content found
  rw [same]
  have still {file : TableFile} (registered : database.catalog.file page.table = .ok file)
      (inside : page.number < file.pageCount database.volume) :
      ∃ file, database.catalog.file page.table = .ok file ∧
        page.number < file.pageCount next.volume :=
    ⟨file, registered,
      Nat.lt_of_lt_of_le inside (strides.pageCount_le file (kept _ _ registered))⟩
  have before {frame : Nat} {content : Page}
      (found : database.pool.residentFrame? page = some (frame, content)) :
      ∃ file, database.catalog.file page.table = .ok file ∧
        page.number < file.pageCount next.volume := by
    obtain ⟨file, registered, inside⟩ := stocked page frame content found
    exact still registered inside
  have found' := found
  rw [strides.residentFrame? steady page] at found'
  cases strides with
  | move moves =>
      cases moves.resides steady found with
      | stays found _ => exact before found
      | arrives onDisk =>
          obtain ⟨file, registered, read⟩ := diskPage?_eq_some.mp onDisk
          exact still registered (TableFile.lt_pageCount_of_readPage read).2
      | edited found _ _ => exact before found
      | saved found _ => exact before found
  | empty => cases found'
  | _ => exact before found'

end

end Database

end RowStore
