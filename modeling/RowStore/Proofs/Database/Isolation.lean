import RowStore.Database.Pages
import RowStore.Proofs.Database.Contents
import RowStore.Proofs.Lock.Exclusion
import RowStore.Proofs.Pool

/-!
Isolation: while transactions run, the disk has what was committed, a clean page in the pool is as
on the disk, and a page with changes has those of its owner, which has the page to itself.
-/

set_option autoImplicit false

namespace RowStore

/-! ### Journals -/

/-- What was committed, in order, and what each running transaction has changed since it began. -/
structure Journal where
  committed : List Change
  pending : TransactionId → List Change

namespace Journal

def empty : Journal :=
  { committed := []
    pending := fun _ => [] }

def note (journal : Journal) (transaction : TransactionId) (change : Change) : Journal :=
  { journal with
    pending := fun other =>
      if other = transaction then journal.pending transaction ++ [change]
      else journal.pending other }

def abort (journal : Journal) (transaction : TransactionId) : Journal :=
  { journal with
    pending := fun other => if other = transaction then [] else journal.pending other }

def commit (journal : Journal) (transaction : TransactionId) : Journal :=
  { journal.abort transaction with
    committed := journal.committed ++ journal.pending transaction }

def onDisk (journal : Journal) (initial : RecordId → Option (List Field)) :
    RecordId → Option (List Field) :=
  replay initial (journal.committed.map Change.cut)

/-- What was committed, with the changes that the transaction has made since. -/
def view (journal : Journal) (initial : RecordId → Option (List Field))
    (transaction : TransactionId) : RecordId → Option (List Field) :=
  replay (journal.onDisk initial) (journal.pending transaction)

end Journal

namespace Database

/-! ### Invariant -/

structure Backs (database : Database) (content : Page) : Prop where
  wellFormed : content.WellFormed
  disk : ∃ old, database.diskPage? content.id = some old ∧ old.schema = content.schema ∧
    old.size = content.size

private theorem Backs.of_disk {database next : Database} {content : Page}
    (backs : database.Backs content)
    (same : ∀ page, next.diskPage? page = database.diskPage? page) : next.Backs content := by
  refine ⟨backs.wellFormed, ?_⟩
  rw [same]
  exact backs.disk

structure Isolated (database start : Database) (journal : Journal) : Prop where
  catalog : database.catalog = start.catalog
  exclusive : database.pool.locks.IsExclusive
  sound : database.pool.Sound
  written : ∀ transaction page, page ∈ database.pool.writtenBy transaction →
    database.pool.locks.lockMode? transaction page = some .exclusive
  backs : ∀ page frame content, database.pool.residentFrame? page = some (frame, content) →
    database.Backs content
  clean : ∀ page frame content, database.pool.residentFrame? page = some (frame, content) →
    content.owner = none → database.diskPage? page = some content
  dirty : ∀ page frame content owner, database.pool.residentFrame? page = some (frame, content) →
    content.owner = some owner → page ∈ database.pool.writtenBy owner ∧
      content.Shows (replay database.stored (journal.pending owner))
  pending : ∀ transaction change, change ∈ journal.pending transaction →
    ∃ frame content, database.pool.residentFrame? change.record.page = some (frame, content) ∧
      content.owner = some transaction
  disk : database.stored = journal.onDisk start.stored

theorem SetUp.absent {database : Database} (setUp : database.SetUp) (page : PageId) :
    database.pool.residentFrame? page = none := by
  obtain ⟨capacity, preference, fresh⟩ := setUp.pool
  rw [fresh]
  exact Pool.residentFrame?_new capacity preference page

theorem SetUp.isolated {database : Database} (setUp : database.SetUp) :
    database.Isolated database Journal.empty := by
  obtain ⟨capacity, preference, fresh⟩ := setUp.pool
  have absent := setUp.absent
  constructor
  · rfl
  · rw [fresh]
    exact LockTable.isExclusive_empty
  · rw [fresh]
    exact Pool.sound_new capacity preference
  · intro transaction page member
    rw [fresh] at member
    simp [Pool.new, Pool.writtenBy] at member
  · intro page frame content found
    rw [absent] at found
    cases found
  · intro page frame content found
    rw [absent] at found
    cases found
  · intro page frame content owner found
    rw [absent] at found
    cases found
  · intro transaction change member
    cases member
  · rfl

section

variable {start database : Database} {journal : Journal}

theorem Isolated.owner_eq (isolated : database.Isolated start journal) {page : PageId} {frame : Nat}
    {content : Page} (found : database.pool.residentFrame? page = some (frame, content))
    {owner transaction : TransactionId} (owned : content.owner = some owner) {held : LockMode}
    (holds : database.pool.locks.lockMode? transaction page = some held) :
    transaction = owner := by
  have alone := isolated.written owner page (isolated.dirty page frame content owner found owned).1
  exact (isolated.exclusive page).eq_of_modeOf? alone holds

theorem Isolated.schema_eq (isolated : database.Isolated start journal) {page : PageId}
    {frame : Nat} {content : Page}
    (found : database.pool.residentFrame? page = some (frame, content)) {file : TableFile}
    (registered : start.catalog.file page.table = .ok file) : content.schema = file.schema := by
  obtain ⟨old, onDisk, schema, _⟩ := (isolated.backs page frame content found).disk
  obtain ⟨own, registeredOwn, read⟩ := diskPage?_eq_some.mp onDisk
  rw [isolated.sound.id_eq found, isolated.catalog, registered] at registeredOwn
  cases registeredOwn
  rw [← schema]
  exact (TableFile.wellFormed_of_readPage read).2.2.1

/-- What is in the pool of a registered table is one of its pages on the disk. -/
theorem Isolated.lt_pageCount (isolated : database.Isolated start journal) {page : PageId}
    {frame : Nat} {content : Page}
    (found : database.pool.residentFrame? page = some (frame, content)) {file : TableFile}
    (registered : database.catalog.file page.table = .ok file) :
    page.number < file.pageCount database.volume := by
  obtain ⟨old, onDisk, _⟩ := (isolated.backs page frame content found).disk
  rw [isolated.sound.id_eq found] at onDisk
  exact lt_pageCount_of_diskPage? registered onDisk

theorem Isolated.replay_of_clean (isolated : database.Isolated start journal) {page : PageId}
    (transaction : TransactionId)
    (clean : ∀ frame content, database.pool.residentFrame? page = some (frame, content) →
      content.owner ≠ some transaction) (slot : Nat) :
    replay database.stored (journal.pending transaction) ⟨page, slot⟩ =
      database.stored ⟨page, slot⟩ := by
  apply replay_of_untouched
  intro change member same
  obtain ⟨frame, content, found, owned⟩ := isolated.pending transaction change member
  rw [same] at found
  exact clean frame content found owned

theorem Isolated.shows (isolated : database.Isolated start journal) {page : PageId} {frame : Nat}
    {content : Page} (found : database.pool.residentFrame? page = some (frame, content))
    {transaction : TransactionId} {held : LockMode}
    (holds : database.pool.locks.lockMode? transaction page = some held) :
    content.Shows (replay database.stored (journal.pending transaction)) := by
  cases owned : content.owner with
  | some owner =>
      rw [isolated.owner_eq found owned holds]
      exact (isolated.dirty page frame content owner found owned).2
  | none =>
      intro slot
      have onDisk := isolated.clean page frame content found owned
      rw [isolated.sound.id_eq found, isolated.replay_of_clean, stored_of_diskPage? onDisk]
      intro again other foundAgain
      rw [found] at foundAgain
      cases foundAgain
      rw [owned]
      intro impossible
      cases impossible

/-! ### Locks and loading -/

theorem Isolated.setLocks (isolated : database.Isolated start journal) {locks : LockTable}
    (exclusive : locks.IsExclusive)
    (kept : ∀ transaction page,
      database.pool.locks.lockMode? transaction page = some .exclusive →
        locks.lockMode? transaction page = some .exclusive) :
    (database.setLocks locks).Isolated start journal :=
  { catalog := isolated.catalog
    exclusive := exclusive
    sound := isolated.sound
    written := fun transaction page member =>
      kept transaction page (isolated.written transaction page member)
    backs := fun page frame content found =>
      (isolated.backs page frame content found).of_disk (fun _ => rfl)
    clean := isolated.clean
    dirty := isolated.dirty
    pending := isolated.pending
    disk := isolated.disk }

theorem Isolated.noteAccess (isolated : database.Isolated start journal)
    {transaction : TransactionId} {page : PageId} {access : Access}
    (holds : access = .write →
      database.pool.locks.lockMode? transaction page = some .exclusive) :
    (database.noteAccess transaction page access).Isolated start journal := by
  cases access with
  | read => exact isolated
  | write =>
      exact
        { catalog := isolated.catalog
          exclusive := isolated.exclusive
          sound := isolated.sound
          written := by
            intro other onPage member
            rcases Pool.mem_writtenBy_noteWrite.mp member with both | before
            · rw [both.1, both.2]
              exact holds rfl
            · exact isolated.written other onPage before
          backs := fun page frame content found =>
            (isolated.backs page frame content found).of_disk (fun _ => rfl)
          clean := isolated.clean
          dirty := by
            intro onPage frame content owner found owned
            obtain ⟨member, shows⟩ := isolated.dirty onPage frame content owner found owned
            exact ⟨Pool.mem_writtenBy_noteWrite.mpr (Or.inr member), shows⟩
          pending := isolated.pending
          disk := isolated.disk }

theorem backs_of_diskPage? {page : PageId} {content : Page}
    (onDisk : database.diskPage? page = some content) : database.Backs content := by
  obtain ⟨file, _, read⟩ := diskPage?_eq_some.mp onDisk
  obtain ⟨wellFormed, id, _⟩ := TableFile.wellFormed_of_readPage read
  refine ⟨wellFormed, content, ?_, rfl, rfl⟩
  rw [id]
  exact onDisk

theorem owner_of_diskPage? {page : PageId} {content : Page}
    (onDisk : database.diskPage? page = some content) : content.owner = none := by
  obtain ⟨file, _, read⟩ := diskPage?_eq_some.mp onDisk
  exact (TableFile.wellFormed_of_readPage read).2.2.2.2.1

theorem load_cases {loaded : Database} {page : PageId} {frame : Nat} {content : Page}
    (sound : database.pool.Sound) (loads : database.load page = .ok (loaded, frame, content)) :
    ∃ pool, loaded = { database with pool := pool } ∧
      database.pool.Takes pool page frame content ∧
        (database.pool.residentFrame? page = some (frame, content) ∨
          database.pool.residentFrame? page = none ∧
            database.diskPage? page = some content) := by
  unfold load at loads
  split at loads
  · rename_i found
    cases loads
    exact ⟨database.pool, rfl, Pool.Takes.refl sound found, Or.inl found⟩
  · rename_i absent
    cases registered : database.catalog.file page.table with
    | error fault =>
        rw [registered] at loads
        cases loads
    | ok file =>
        cases read : file.readPage database.volume page with
        | error fault =>
            rw [registered] at loads
            simp only [bind, Except.bind, read] at loads
            cases loads
        | ok onDisk =>
            cases installs : database.pool.installNew onDisk with
            | error fault =>
                rw [registered] at loads
                simp only [bind, Except.bind, read, installs] at loads
                cases loads
            | ok installed =>
                rw [registered] at loads
                simp only [bind, Except.bind, read, installs] at loads
                cases loads
                have id := (TableFile.wellFormed_of_readPage read).2.1
                have takes := Pool.takes_installNew sound installs
                rw [id] at takes
                refine ⟨installed.1, rfl, takes, Or.inr ⟨absent, ?_⟩⟩
                exact diskPage?_eq_some.mpr ⟨file, registered, read⟩

theorem Isolated.load (isolated : database.Isolated start journal) {loaded : Database}
    {page : PageId} {frame : Nat} {content : Page}
    (loads : database.load page = .ok (loaded, frame, content)) :
    loaded.Isolated start journal ∧ loaded.pool.residentFrame? page = some (frame, content) ∧
      loaded.pool.locks = database.pool.locks ∧ loaded.pool.written = database.pool.written := by
  obtain ⟨pool, rfl, takes, origin⟩ := load_cases isolated.sound loads
  -- What is in the pool now was there before, or was just read.
  have before {other : PageId} {held : Nat} {old : Page}
      (found : pool.residentFrame? other = some (held, old)) :
      database.pool.residentFrame? other = some (held, old) ∨
        database.diskPage? other = some old := by
    rcases takes.cases found with ⟨rfl, rfl, rfl⟩ | resident
    · rcases origin with resident | ⟨_, onDisk⟩
      · exact Or.inl resident
      · exact Or.inr onDisk
    · exact Or.inl resident
  have writtenBy (transaction : TransactionId) :
      pool.writtenBy transaction = database.pool.writtenBy transaction := by
    unfold Pool.writtenBy
    rw [takes.written]
  refine ⟨?_, takes.found, takes.locks, takes.written⟩
  constructor
  · exact isolated.catalog
  · dsimp only
    rw [takes.locks]
    exact isolated.exclusive
  · exact takes.sound
  · intro transaction other member
    dsimp only at member ⊢
    rw [writtenBy] at member
    rw [takes.locks]
    exact isolated.written transaction other member
  · intro other held old found
    rcases before found with resident | onDisk
    · exact (isolated.backs other held old resident).of_disk (fun _ => rfl)
    · exact (backs_of_diskPage? onDisk).of_disk (fun _ => rfl)
  · intro other held old found clean
    rcases before found with resident | onDisk
    · exact isolated.clean other held old resident clean
    · exact onDisk
  · intro other held old owner found owned
    dsimp only
    rw [writtenBy]
    rcases before found with resident | onDisk
    · exact isolated.dirty other held old owner resident owned
    · rw [owner_of_diskPage? onDisk] at owned
      cases owned
  · intro transaction change member
    obtain ⟨held, old, found, owned⟩ := isolated.pending transaction change member
    refine ⟨held, old, ?_, owned⟩
    by_cases same : change.record.page = page
    · rcases origin with resident | ⟨absent, _⟩
      · rw [same] at found ⊢
        rw [resident] at found
        cases found
        exact takes.found
      · rw [same, absent] at found
        cases found
    · rcases takes.others change.record.page same with stays | ⟨_, _, clean⟩
      · exact stays.trans found
      · rw [clean held old found] at owned
        cases owned
  · exact isolated.disk

/-! ### Changes and new pages -/

theorem Isolated.change (isolated : database.Isolated start journal) {transaction : TransactionId}
    {page : PageId} {frame : Nat} {content changed : Page}
    (found : database.pool.residentFrame? page = some (frame, content))
    (member : page ∈ database.pool.writtenBy transaction) (wellFormed : changed.WellFormed)
    (id : changed.id = page) (schema : changed.schema = content.schema)
    (size : changed.size = content.size) (owned : changed.owner = some transaction) {slot : Nat}
    {fields : Option (List Field)}
    (rows : ∀ other, (changed.row? other).map Row.fields =
      if other = slot then fields else (content.row? other).map Row.fields) :
    (database.setFrame frame changed).Isolated start
      (journal.note transaction ⟨⟨page, slot⟩, fields⟩) := by
  have alone := isolated.written transaction page member
  have resident := isolated.sound.residentFrame?_setFrame found changed
  have cases_of_found {other : PageId} {held : Nat} {old : Page}
      (foundOther : (database.setFrame frame changed).pool.residentFrame? other =
        some (held, old)) :
      (other = page ∧ old = changed) ∨
        (other ≠ page ∧ database.pool.residentFrame? other = some (held, old)) := by
    have after := (resident other).symm.trans foundOther
    by_cases same : other = page
    · rw [if_pos same] at after
      cases after
      exact Or.inl ⟨same, rfl⟩
    · rw [if_neg same] at after
      exact Or.inr ⟨same, after⟩
  constructor
  · exact isolated.catalog
  · exact isolated.exclusive
  · exact isolated.sound.setFrame found id
  · exact isolated.written
  · intro other held old foundOther
    rcases cases_of_found foundOther with ⟨_, rfl⟩ | ⟨_, before⟩
    · obtain ⟨_, disk, onDisk, diskSchema, diskSize⟩ := isolated.backs page frame content found
      rw [isolated.sound.id_eq found] at onDisk
      refine ⟨wellFormed, disk, ?_, diskSchema.trans schema.symm, diskSize.trans size.symm⟩
      rw [id]
      exact onDisk
    · exact (isolated.backs other held old before).of_disk (fun _ => rfl)
  · intro other held old foundOther clean
    rcases cases_of_found foundOther with ⟨_, rfl⟩ | ⟨_, before⟩
    · rw [owned] at clean
      cases clean
    · exact isolated.clean other held old before clean
  · intro other held old owner foundOther ownedOther
    rcases cases_of_found foundOther with ⟨same, rfl⟩ | ⟨different, before⟩
    · rw [owned] at ownedOther
      cases ownedOther
      rw [same]
      refine ⟨member, ?_⟩
      intro other
      have shows := isolated.shows found alone other
      rw [isolated.sound.id_eq found] at shows
      simp only [Journal.note, if_true, id]
      rw [replay_append_singleton, rows]
      by_cases same : other = slot
      · rw [if_pos same, if_pos (by rw [same])]
      · have apart : (⟨page, other⟩ : RecordId) ≠ ⟨page, slot⟩ :=
          fun equal => same (congrArg RecordId.slot equal)
        rw [if_neg same, if_neg apart]
        exact shows
    · obtain ⟨memberOther, shows⟩ := isolated.dirty other held old owner before ownedOther
      refine ⟨memberOther, ?_⟩
      intro otherSlot
      have oldId := isolated.sound.id_eq before
      rw [shows otherSlot, oldId]
      simp only [Journal.note]
      split
      · rename_i same
        have apart : (⟨other, otherSlot⟩ : RecordId) ≠ ⟨page, slot⟩ :=
          fun equal => different (congrArg RecordId.page equal)
        rw [replay_append_singleton, if_neg apart, same]
        rfl
      · rfl
  · intro owner change changes
    have entered := (resident page).trans (if_pos rfl)
    have earlier (before : change ∈ journal.pending owner) :
        ∃ held old, (database.setFrame frame changed).pool.residentFrame? change.record.page =
          some (held, old) ∧ old.owner = some owner := by
      obtain ⟨held, old, foundOld, ownedOld⟩ := isolated.pending owner change before
      by_cases same : change.record.page = page
      · rw [same, found] at foundOld
        cases foundOld
        have mine := isolated.owner_eq found ownedOld alone
        rw [same, ← mine]
        exact ⟨frame, changed, entered, owned⟩
      · exact ⟨held, old, ((resident _).trans (if_neg same)).trans foundOld, ownedOld⟩
    simp only [Journal.note] at changes
    split at changes
    · rename_i same
      rcases List.mem_append.mp changes with before | new
      · rw [← same] at before
        exact earlier before
      · rw [List.mem_singleton.mp new, same]
        exact ⟨frame, changed, entered, owned⟩
    · exact earlier changes
  · exact isolated.disk

/-- What is read from the disk after a page was added is what was read before, or it is a page
without rows that could not be read before. -/
theorem diskPage?_appendEmptyPage {numbering : String → TableId}
    (sound : database.catalog.Sound numbering) {table : TableId} {file : TableFile}
    (registered : database.catalog.file table = .ok file) (page : PageId) :
    (database.appendEmptyPage file).1.diskPage? page = database.diskPage? page ∨
      database.diskPage? page = none ∧
        ∀ content, (database.appendEmptyPage file).1.diskPage? page = some content →
          ∀ slot, content.row? slot = none := by
  cases found : database.catalog.file page.table with
  | error fault =>
      left
      rw [diskPage?_of_error found]
      exact diskPage?_of_error found
  | ok own =>
      have before := diskPage?_of_file found
      have after : (database.appendEmptyPage file).1.diskPage? page =
          (own.readPage (file.appendEmptyPage database.volume).1 page).toOption :=
        diskPage?_of_file found
      rw [before, after]
      by_cases sameTable : page.table = table
      · rw [sameTable, registered] at found
        cases found
        rcases file.readPage_appendEmptyPage database.volume page with same | ⟨absent, empty⟩
        · exact Or.inl (congrArg Except.toOption same)
        · right
          constructor
          · cases read : file.readPage database.volume page with
            | error fault => rfl
            | ok content => exact absurd read (absent content)
          · intro content onDisk
            apply empty content
            cases read : file.readPage (file.appendEmptyPage database.volume).1 page with
            | error fault =>
                rw [read] at onDisk
                cases onDisk
            | ok again =>
                rw [read] at onDisk
                cases onDisk
                rfl
      · left
        have apart : file.path ≠ own.path :=
          sound.path_ne registered found (Ne.symm sameTable)
        exact congrArg Except.toOption
          (TableFile.readPage_write_of_ne apart database.volume _ page)

theorem diskPage?_appendEmptyPage_of_some {numbering : String → TableId}
    (sound : database.catalog.Sound numbering) {table : TableId} {file : TableFile}
    (registered : database.catalog.file table = .ok file) {page : PageId} {content : Page}
    (onDisk : database.diskPage? page = some content) :
    (database.appendEmptyPage file).1.diskPage? page = some content := by
  rcases diskPage?_appendEmptyPage sound registered page with same | ⟨absent, _⟩
  · exact same.trans onDisk
  · rw [absent] at onDisk
    cases onDisk

theorem stored_appendEmptyPage {numbering : String → TableId}
    (sound : database.catalog.Sound numbering) {table : TableId} {file : TableFile}
    (registered : database.catalog.file table = .ok file) :
    (database.appendEmptyPage file).1.stored = database.stored := by
  funext record
  unfold stored
  rcases diskPage?_appendEmptyPage sound registered record.page with same | ⟨absent, empty⟩
  · rw [same]
  · rw [absent]
    split
    · rename_i content onDisk
      rw [empty content onDisk]
      rfl
    · rfl

theorem Isolated.appendEmptyPage (isolated : database.Isolated start journal) (setUp : start.SetUp)
    {table : TableId} {file : TableFile} (registered : database.catalog.file table = .ok file) :
    (database.appendEmptyPage file).1.Isolated start journal := by
  have catalog := setUp.sound
  rw [← isolated.catalog] at catalog
  have stored := stored_appendEmptyPage catalog registered
  constructor
  · exact isolated.catalog
  · exact isolated.exclusive
  · exact isolated.sound
  · exact isolated.written
  · intro page frame content found
    obtain ⟨wellFormed, disk, onDisk, shape⟩ := isolated.backs page frame content found
    exact ⟨wellFormed, disk, diskPage?_appendEmptyPage_of_some catalog registered onDisk, shape⟩
  · intro page frame content found clean
    exact diskPage?_appendEmptyPage_of_some catalog registered
      (isolated.clean page frame content found clean)
  · rw [stored]
    exact isolated.dirty
  · exact isolated.pending
  · rw [stored]
    exact isolated.disk

end

end Database

end RowStore
