import RowStore.Operation.Progress
import RowStore.Proofs.Database.Isolation
import RowStore.Proofs.Database.Room

/-!
Slots: the row under a record as whoever comes to its page finds it, in the pool if the page is
there and on the disk otherwise. Loading, dropping and adding pages changes no slot, and storing a row
changes one: the lowest vacant slot of its page.
-/

set_option autoImplicit false

namespace RowStore

def TableFile.slotCount (file : TableFile) : Nat :=
  Geometry.slotCount file.pageSize file.schema.width

namespace Database

def page? (database : Database) (page : PageId) : Option Page :=
  match database.pool.residentFrame? page with
  | some (_, content) => some content
  | none => database.diskPage? page

def row? (database : Database) (record : RecordId) : Option Row :=
  (database.page? record.page).bind (fun content => content.row? record.slot)

section

variable {start database : Database} {journal : Journal} {page : PageId} {content : Page}

theorem page?_of_resident {frame : Nat}
    (found : database.pool.residentFrame? page = some (frame, content)) :
    database.page? page = some content := by
  unfold page?
  rw [found]

theorem page?_of_absent (absent : database.pool.residentFrame? page = none) :
    database.page? page = database.diskPage? page := by
  unfold page?
  rw [absent]

theorem row?_of_page? (found : database.page? page = some content) (slot : Nat) :
    database.row? ⟨page, slot⟩ = content.row? slot := by
  unfold row?
  rw [found]
  rfl

theorem row?_congr {next : Database} {record : RecordId}
    (same : next.page? record.page = database.page? record.page) :
    next.row? record = database.row? record := by
  unfold row?
  rw [same]

theorem Isolated.row?_view (isolated : database.Isolated start journal)
    {transaction : TransactionId} {held : LockMode}
    (holds : database.pool.locks.lockMode? transaction page = some held) (slot : Nat) :
    (database.row? ⟨page, slot⟩).map Row.fields =
      journal.view start.stored transaction ⟨page, slot⟩ := by
  unfold Journal.view
  rw [← isolated.disk]
  cases found : database.pool.residentFrame? page with
  | some entry =>
      have shows := isolated.shows found holds slot
      rw [isolated.sound.id_eq found] at shows
      rw [row?_of_page? (page?_of_resident found)]
      exact shows
  | none =>
      rw [isolated.replay_of_clean transaction (by
        intro frame content resident
        cases found.symm.trans resident)]
      unfold row? stored
      dsimp only
      rw [page?_of_absent found]
      cases database.diskPage? page <;> rfl

theorem Isolated.slots_eq (isolated : database.Isolated start journal) {frame : Nat}
    (found : database.pool.residentFrame? page = some (frame, content)) {file : TableFile}
    (registered : start.catalog.file page.table = .ok file) :
    content.slots.length = file.slotCount := by
  obtain ⟨wellFormed, old, onDisk, schema, size⟩ := isolated.backs page frame content found
  obtain ⟨own, registeredOwn, read⟩ := diskPage?_eq_some.mp onDisk
  rw [isolated.sound.id_eq found, isolated.catalog, registered] at registeredOwn
  cases registeredOwn
  obtain ⟨_, _, sameSchema, sameSize, _⟩ := TableFile.wellFormed_of_readPage read
  rw [wellFormed.slots, ← size, ← schema, sameSize, sameSchema]
  rfl

/-! ### What changes no slot -/

/-- A page that is dropped to make room is on the disk as it was in the pool. -/
theorem Isolated.page?_load (isolated : database.Isolated start journal) {loaded : Database}
    {frame : Nat} (loads : database.load page = .ok (loaded, frame, content)) (other : PageId) :
    loaded.page? other = database.page? other := by
  obtain ⟨pool, rfl, takes, origin⟩ := load_cases isolated.sound loads
  by_cases same : other = page
  · subst same
    rw [page?_of_resident takes.found]
    rcases origin with resident | ⟨absent, onDisk⟩
    · rw [page?_of_resident resident]
    · rw [page?_of_absent absent, onDisk]
  · rcases takes.others other same with stays | ⟨goes, _, clean⟩
    · unfold page?
      rw [stays]
      rfl
    · rw [page?_of_absent goes]
      cases found : database.pool.residentFrame? other with
      | none => exact (page?_of_absent found).symm
      | some entry =>
          rw [page?_of_resident found]
          exact isolated.clean other entry.1 entry.2 found (clean entry.1 entry.2 found)

theorem row?_appendEmptyPage {numbering : String → TableId}
    (sound : database.catalog.Sound numbering) {table : TableId} {file : TableFile}
    (registered : database.catalog.file table = .ok file) :
    (database.appendEmptyPage file).1.row? = database.row? := by
  funext record
  cases found : database.pool.residentFrame? record.page with
  | some entry =>
      have resident : (database.appendEmptyPage file).1.pool.residentFrame? record.page =
          some entry := found
      exact row?_congr ((page?_of_resident resident).trans (page?_of_resident found).symm)
  | none =>
      have absent : (database.appendEmptyPage file).1.pool.residentFrame? record.page = none :=
        found
      rcases diskPage?_appendEmptyPage sound registered record.page with same | ⟨missing, empty⟩
      · exact row?_congr ((page?_of_absent absent).trans (same.trans (page?_of_absent found).symm))
      · unfold row?
        rw [page?_of_absent absent, page?_of_absent found, missing]
        cases onDisk : (database.appendEmptyPage file).1.diskPage? record.page with
        | none => rfl
        | some content => exact empty content onDisk record.slot

theorem row?_advance {numbering : String → TableId} (sound : database.catalog.Sound numbering)
    {insertion rest : Insertion} {table : TableId}
    (registered : database.catalog.file table = .ok insertion.file) {tried : Nat} {next : Database}
    (advances : insertion.advance database tried = (next, rest)) :
    next.row? = database.row? := by
  unfold Insertion.advance at advances
  dsimp only at advances
  split at advances
  · cases advances
    rfl
  · cases advances
    exact row?_appendEmptyPage sound registered

theorem row?_skip {numbering : String → TableId} (sound : database.catalog.Sound numbering)
    {insertion rest : Insertion} {table : TableId}
    (registered : database.catalog.file table = .ok insertion.file) {next : Database}
    (skips : insertion.skip database = (next, rest)) : next.row? = database.row? := by
  unfold Insertion.skip at skips
  split at skips
  · cases skips
    rfl
  · exact row?_advance sound registered skips

/-! ### Storing a row -/

theorem row?_setFrame (sound : database.pool.Sound) {frame slot : Nat}
    (found : database.pool.residentFrame? page = some (frame, content))
    (inside : slot < content.slots.length) (row : Option Row) (owner : Option TransactionId)
    (record : RecordId) :
    (database.setFrame frame ((content.assign slot row).mark owner)).row? record =
      if record = ⟨page, slot⟩ then row else database.row? record := by
  have resident := sound.residentFrame?_setFrame found ((content.assign slot row).mark owner)
  obtain ⟨onPage, inSlot⟩ := record
  by_cases same : onPage = page
  · subst same
    have changed : (database.setFrame frame
        ((content.assign slot row).mark owner)).pool.residentFrame? onPage =
          some (frame, (content.assign slot row).mark owner) := (resident onPage).trans (if_pos rfl)
    rw [row?_of_page? (page?_of_resident changed), row?_of_page? (page?_of_resident found),
      Page.row?_mark, Page.row?_assign inside]
    simp only [RecordId.mk.injEq, true_and]
  · have kept : (database.setFrame frame
        ((content.assign slot row).mark owner)).pool.residentFrame? onPage =
          database.pool.residentFrame? onPage := (resident onPage).trans (if_neg same)
    rw [if_neg (fun both => same (congrArg RecordId.page both))]
    apply row?_congr
    unfold page?
    rw [kept]
    rfl

private theorem absorb_assign (sound : database.pool.Sound) {frame slot : Nat}
    (found : database.pool.residentFrame? page = some (frame, content))
    (inside : slot < content.slots.length) (row : Option Row) (transaction : TransactionId) :
    ∃ next, (database.setFrame frame ((content.assign slot row).mark (some transaction))).absorb
        transaction frame ((content.assign slot row).mark (some transaction)) = (next, .ok ()) ∧
      (∀ record, next.row? record =
        if record = ⟨page, slot⟩ then row else database.row? record) ∧
      (∃ frame content, next.pool.residentFrame? page = some (frame, content) ∧
        content.owner = some transaction) ∧
      page ∈ next.pool.writtenBy transaction := by
  have changed := (sound.residentFrame?_setFrame found
    ((content.assign slot row).mark (some transaction)) page).trans (if_pos rfl)
  have id : content.id = page := sound.id_eq found
  exact ⟨_, absorb_of_resident changed id rfl,
    row?_setFrame sound found inside row (some transaction), ⟨frame, _, changed, rfl⟩,
    Pool.mem_writtenBy_noteWrite.mpr (.inl ⟨rfl, rfl⟩)⟩

/-- What trying a page comes to. A page without room has a row in each slot. A row is stored in the
lowest vacant slot, and nowhere else. -/
inductive Tried (database : Database) (insertion : Insertion) : Database × Progress → Prop where
  | failed (next : Database) (fault : Fault) (rows : next.row? = database.row?) :
      Tried database insertion (next, .finished (.failed fault))
  | full (loaded next : Database) (rest : Insertion) (volume : loaded.volume = database.volume)
      (skips : insertion.skip loaded = (next, rest))
      (taken : ∀ slot < insertion.file.slotCount,
        (database.row? ⟨insertion.page, slot⟩).isSome = true)
      (rows : next.row? = database.row?) :
      Tried database insertion (next, .waiting (.inserting rest .toPool))
  | stored (next : Database) (slot : Nat) (inside : slot < insertion.file.slotCount)
      (vacant : database.row? ⟨insertion.page, slot⟩ = none)
      (below : ∀ lower < slot, (database.row? ⟨insertion.page, lower⟩).isSome = true)
      (rows : ∀ record, next.row? record = if record = ⟨insertion.page, slot⟩
        then some (insertion.row.storedAt ⟨insertion.page, slot⟩) else database.row? record)
      (owned : ∃ frame content, next.pool.residentFrame? insertion.page = some (frame, content) ∧
        content.owner = some insertion.transaction)
      (noted : insertion.page ∈ next.pool.writtenBy insertion.transaction) :
      Tried database insertion (next, .finished (.inserted
        (insertion.row.storedAt ⟨insertion.page, slot⟩) insertion.page))

private theorem tried_of_vacant {insertion : Insertion} {loaded : Database} {frame slot : Nat}
    (loads : (database.noteAccess insertion.transaction insertion.page .write).load
      insertion.page = .ok (loaded, frame, content)) (sound : loaded.pool.Sound)
    (resident : loaded.pool.residentFrame? insertion.page = some (frame, content))
    (wellFormed : content.WellFormed) (slots : content.slots.length = insertion.file.slotCount)
    (rows : loaded.row? = database.row?) (vacant : content.firstVacant? = some slot)
    (fits : insertion.row.schema = content.schema) :
    database.Tried insertion (Progress.insert database insertion .toPool) := by
  have id := sound.id_eq resident
  have room : content.isFull = false := by
    unfold Page.isFull
    rw [vacant]
    rfl
  have onPage (lower : Nat) : database.row? ⟨insertion.page, lower⟩ = content.row? lower := by
    rw [← rows]
    exact row?_of_page? (page?_of_resident resident) lower
  obtain ⟨inside, empty, below⟩ := wellFormed.firstVacant? vacant
  obtain ⟨next, absorbs, stored, owned, member⟩ := absorb_assign sound resident inside
    (some (insertion.row.storedAt ⟨insertion.page, slot⟩)) insertion.transaction
  have sameId : ((content.assign slot (some (insertion.row.storedAt
      ⟨insertion.page, slot⟩))).mark (some insertion.transaction)).id = insertion.page := id
  rw [rows] at stored
  rw [slots] at inside
  unfold Progress.insert Insertion.tryPage Page.insert
  simp only [loads, room, Bool.false_eq_true, if_false, if_pos fits, vacant, id,
    Progress.handOver, absorbs]
  rw [sameId]
  refine .stored next slot inside ((onPage slot).trans empty) ?_ stored owned member
  intro lower lowerThan
  rw [onPage]
  exact below lower lowerThan

theorem Isolated.tried (isolated : database.Isolated start journal) (setUp : start.SetUp)
    {insertion : Insertion} {table : TableId}
    (registered : start.catalog.file table = .ok insertion.file)
    (holds : database.pool.locks.lockMode? insertion.transaction insertion.page =
      some .exclusive) :
    database.Tried insertion (Progress.insert database insertion .toPool) := by
  have noted := isolated.noteAccess (fun _ : Access.write = .write => holds)
  cases loads : (database.noteAccess insertion.transaction insertion.page .write).load
      insertion.page with
  | error fault =>
      unfold Progress.insert Insertion.tryPage
      simp only [loads]
      exact .failed _ fault rfl
  | ok found =>
      obtain ⟨loaded, frame, content⟩ := found
      obtain ⟨reached, resident, locks, written⟩ := noted.load loads
      have rows : loaded.row? = database.row? :=
        funext fun record => row?_congr (noted.page?_load loads record.page)
      have wellFormed := (reached.backs _ _ _ resident).wellFormed
      have slots : content.slots.length = insertion.file.slotCount := by
        apply reached.slots_eq resident
        change start.catalog.file insertion.file.id = _
        rw [(setUp.sound.file registered).1]
        exact registered
      cases full : content.isFull with
      | true =>
          unfold Progress.insert Insertion.tryPage
          simp only [loads, full, if_true]
          cases skips : insertion.skip loaded with
          | mk next rest =>
              have catalog := setUp.sound
              rw [← reached.catalog] at catalog registered
              have volume : loaded.volume = database.volume := by
                obtain ⟨pool, rfl, _⟩ := load_cases noted.sound loads
                rfl
              refine .full loaded next rest volume skips ?_
                ((row?_skip catalog registered skips).trans rows)
              intro slot inside
              rw [← slots] at inside
              rw [← rows, row?_of_page? (page?_of_resident resident)]
              exact wellFormed.isSome_of_isFull full inside
      | false =>
          by_cases fits : insertion.row.schema = content.schema
          · obtain ⟨slot, vacant⟩ := Page.exists_firstVacant? full
            exact tried_of_vacant loads reached.sound resident wellFormed slots rows vacant fits
          · unfold Progress.insert Insertion.tryPage Page.insert
            simp only [loads, full, Bool.false_eq_true, if_false, if_neg fits]
            exact .failed _ _ rows

end

end Database

end RowStore
