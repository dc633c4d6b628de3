import RowStore.Proofs.Database.Isolation

/-!
Ending a transaction: committing always succeeds and brings exactly the transaction's own changes to
the disk, aborting brings none of them, and neither touches what other transactions see.
-/

set_option autoImplicit false

namespace RowStore

/-! ### Bytes of a page -/

namespace Database

/-- Whether a byte of a volume is one of this page of a registered table. -/
def Spans (database : Database) (page : PageId) (path : String) (offset : Nat) : Prop :=
  ∃ file, database.catalog.file page.table = .ok file ∧ file.Spans page.number path offset

/-- Whether a byte is one of a page among these that is in the pool with changes. -/
def Unsaved (database : Database) (pages : List PageId) (path : String) (offset : Nat) : Prop :=
  ∃ page ∈ pages, ∃ frame content,
    database.pool.residentFrame? page = some (frame, content) ∧ content.isDirty = true ∧
      database.Spans page path offset

end Database

theorem Catalog.Sound.spans_apart {catalog : Catalog} {numbering : String → TableId}
    (sound : catalog.Sound numbering) {left right : PageId} {leftFile rightFile : TableFile}
    (foundLeft : catalog.file left.table = .ok leftFile)
    (foundRight : catalog.file right.table = .ok rightFile) (different : left ≠ right)
    {path : String} {offset : Nat} (inLeft : leftFile.Spans left.number path offset) :
    ¬rightFile.Spans right.number path offset := by
  intro inRight
  obtain ⟨rfl, afterLeft, beforeLeft⟩ := inLeft
  obtain ⟨samePath, afterRight, beforeRight⟩ := inRight
  by_cases sameTable : left.table = right.table
  · rw [sameTable, foundRight] at foundLeft
    cases foundLeft
    have apart : left.number ≠ right.number := by
      intro same
      apply different
      rw [PageId.mk.injEq]
      exact ⟨sameTable, same⟩
    rcases Nat.lt_or_gt_of_ne apart with before | behind
    · have whole := Nat.mul_le_mul_right leftFile.pageSize before
      rw [Nat.succ_mul] at whole
      omega
    · have whole := Nat.mul_le_mul_right leftFile.pageSize behind
      rw [Nat.succ_mul] at whole
      omega
  · exact sound.path_ne foundLeft foundRight sameTable samePath

namespace Database

/-! ### Writing back -/

section

variable {start database : Database} {journal : Journal}

/-- A page is written over one of its shape, and no other page of the disk changes. -/
theorem Backs.write {numbering : String → TableId} {content : Page}
    (backs : database.Backs content) (sound : database.catalog.Sound numbering) :
    ∃ file, database.catalog.file content.id.table = .ok file ∧
      (content.encode.length = file.pageSize ∧
        content.id.number < file.pageCount database.volume) ∧
      database.writePage file content =
        .ok { database with volume := file.withPage database.volume content } ∧
      ∀ page, diskPage? { database with volume := file.withPage database.volume content } page =
        if page = content.id then some content.cut else database.diskPage? page := by
  obtain ⟨wellFormed, old, onDisk, sameSchema, sameSize⟩ := backs
  obtain ⟨file, registered, read⟩ := diskPage?_eq_some.mp onDisk
  obtain ⟨_, _, schema, size, _⟩ := TableFile.wellFormed_of_readPage read
  obtain ⟨mine, present⟩ := TableFile.lt_pageCount_of_readPage read
  have ownSchema : content.schema = file.schema := sameSchema.symm.trans schema
  have ownSize : content.size = file.pageSize := sameSize.symm.trans size
  refine ⟨file, registered, ⟨wellFormed.length_encode.trans ownSize, present⟩, ?_, ?_⟩
  · unfold Database.writePage
    rw [TableFile.writePage_eq wellFormed mine ownSize]
    rfl
  · intro page
    by_cases same : page = content.id
    · rw [if_pos same, same]
      refine diskPage?_eq_some.mpr ⟨file, registered, ?_⟩
      exact TableFile.readPage_withPage wellFormed mine ownSchema ownSize present
    · rw [if_neg same]
      cases found : database.catalog.file page.table with
      | error fault =>
          rw [diskPage?_of_error found]
          exact diskPage?_of_error found
      | ok own =>
          have after : diskPage? { database with
              volume := file.withPage database.volume content } page =
                (own.readPage (file.withPage database.volume content) page).toOption :=
            diskPage?_of_file found
          rw [diskPage?_of_file found, after]
          apply congrArg Except.toOption
          by_cases sameTable : page.table = content.id.table
          · rw [sameTable, registered] at found
            cases found
            exact TableFile.readPage_withPage_of_ne wellFormed mine ownSize present same
          · exact TableFile.readPage_write_of_ne
              (sound.path_ne registered found (Ne.symm sameTable)) database.volume _ page

/-- The second database is the first one with these pages written back, as far as they are in the
pool. -/
structure Flushed (database flushed : Database) (done : List PageId) : Prop where
  catalog : flushed.catalog = database.catalog
  locks : flushed.pool.locks = database.pool.locks
  written : flushed.pool.written = database.pool.written
  sound : flushed.pool.Sound
  resident : ∀ page, flushed.pool.residentFrame? page =
    (database.pool.residentFrame? page).map (fun found =>
      (found.1, if page ∈ done then found.2.mark none else found.2))
  disk : ∀ page, flushed.diskPage? page =
    match database.pool.residentFrame? page with
    | some (_, content) => if page ∈ done then some content.cut else database.diskPage? page
    | none => database.diskPage? page
  keeps : database.pool.Keeps flushed.pool
  overwritten : database.volume.Overwritten flushed.volume (database.Unsaved done)
  saved : ∀ page ∈ done, ∀ frame content,
    database.pool.residentFrame? page = some (frame, content) → content.isDirty = true →
      ∃ file, database.catalog.file page.table = .ok file ∧
        (file.pages flushed.volume).read page.number file.pageSize = .ok content.encode

theorem Flushed.nothing (sound : database.pool.Sound) : database.Flushed database [] := by
  refine ⟨rfl, rfl, rfl, sound, ?_, ?_, .refl _, .refl _ _, ?_⟩
  · intro page
    simp
  · intro page
    cases database.pool.residentFrame? page with
    | none => rfl
    | some found => simp
  · intro page impossible
    cases impossible

private theorem Unsaved.append {done : List PageId} {path : String} {offset : Nat}
    (unsaved : database.Unsaved done path offset) (more : List PageId) :
    database.Unsaved (done ++ more) path offset := by
  obtain ⟨page, member, entry⟩ := unsaved
  exact ⟨page, List.mem_append_left more member, entry⟩

private theorem Flushed.skip {flushed : Database} {done : List PageId}
    (before : database.Flushed flushed done) {page : PageId}
    (clean : ∀ frame content, database.pool.residentFrame? page = some (frame, content) →
      page ∉ done → content.owner = none ∧ database.diskPage? page = some content ∧
        content.cut = content) : database.Flushed flushed (done ++ [page]) := by
  refine ⟨before.catalog, before.locks, before.written, before.sound, ?_, ?_, before.keeps,
    before.overwritten.mono (fun _ _ unsaved => unsaved.append [page]), ?_⟩
  · intro other
    rw [before.resident]
    cases found : database.pool.residentFrame? other with
    | none => rfl
    | some entry =>
        obtain ⟨frame, content⟩ := entry
        by_cases done : other ∈ done
        · simp [done]
        · by_cases same : other = page
          · subst same
            have unowned := (clean frame content found done).1
            have unmarked : content.mark none = content := by
              unfold Page.mark
              rw [← unowned]
            simp [unmarked]
          · simp [done, same]
  · intro other
    rw [before.disk]
    cases found : database.pool.residentFrame? other with
    | none => rfl
    | some entry =>
        obtain ⟨frame, content⟩ := entry
        by_cases done : other ∈ done
        · simp [done]
        · by_cases same : other = page
          · subst same
            obtain ⟨_, onDisk, cut⟩ := clean frame content found done
            simp [onDisk, cut]
          · simp [done, same]
  · intro other member frame content found dirty
    by_cases earlier : other ∈ done
    · exact before.saved other earlier frame content found dirty
    · have same : other = page := by simpa [earlier] using member
      subst same
      rw [Page.isDirty, (clean frame content found earlier).1] at dirty
      cases dirty

private theorem Isolated.flush (isolated : database.Isolated start journal) (setUp : start.SetUp)
    {flushed : Database} {done : List PageId} (before : database.Flushed flushed done)
    {page : PageId} {frame : Nat} {content : Page}
    (resident : database.pool.residentFrame? page = some (frame, content)) (later : page ∉ done)
    (dirty : content.isDirty = true) :
    ∃ next, flushed.flushPage page = .ok next ∧ database.Flushed next (done ++ [page]) := by
  have id := isolated.sound.id_eq resident
  have catalog := setUp.sound
  rw [← isolated.catalog, ← before.catalog] at catalog
  have found : flushed.pool.residentFrame? page = some (frame, content) := by
    rw [before.resident, resident, Option.map_some, if_neg later]
  have backs : flushed.Backs content := by
    obtain ⟨wellFormed, old, onDisk, shape⟩ := isolated.backs page frame content resident
    refine ⟨wellFormed, old, ?_, shape⟩
    rw [id] at onDisk ⊢
    rw [before.disk, resident]
    simp only [later, if_false]
    exact onDisk
  obtain ⟨file, registered, ⟨length, present⟩, writes, disk⟩ := backs.write catalog
  have overwritten := TableFile.overwritten_withPage length present
  have saved := TableFile.read_withPage flushed.volume length
  rw [id] at registered overwritten saved
  have registeredBefore := registered
  rw [before.catalog] at registeredBefore
  have frames := before.sound.residentFrame?_setFrame found (content.mark none)
  refine ⟨setFrame { flushed with volume := file.withPage flushed.volume content } frame
    (content.mark none), ?_, ?_⟩
  · unfold Database.flushPage
    rw [found]
    simp only [dirty, if_true, registered, bind, Except.bind, writes, pure, Except.pure]
  · refine ⟨before.catalog, before.locks, before.written, before.sound.setFrame found id, ?_, ?_,
      ?_, ?_, ?_⟩
    · intro other
      refine (frames other).trans ?_
      by_cases same : other = page
      · rw [if_pos same, same, resident]
        simp
      · rw [if_neg same, before.resident]
        simp [same]
    · intro other
      refine (disk other).trans ?_
      rw [id]
      by_cases same : other = page
      · rw [if_pos same, same, resident]
        simp
      · rw [if_neg same, before.disk]
        simp [same]
    · exact ⟨before.keeps.capacity, before.keeps.fits⟩
    · refine (before.overwritten.mono (fun _ _ unsaved => unsaved.append [page])).trans
        (overwritten.mono ?_)
      intro path offset inside
      exact ⟨page, List.mem_append_right done List.mem_cons_self, frame, content, resident, dirty,
        file, registeredBefore, inside⟩
    · intro other member held old foundOther dirtyOther
      by_cases same : other = page
      · subst same
        rw [resident] at foundOther
        cases foundOther
        exact ⟨file, registeredBefore, saved⟩
      · have earlier : other ∈ done := by simpa [same] using member
        obtain ⟨own, registeredOwn, read⟩ := before.saved other earlier held old foundOther
          dirtyOther
        refine ⟨own, registeredOwn, (TableFile.read_of_overwritten overwritten ?_).trans read⟩
        intro offset inside
        rw [before.catalog] at catalog
        exact catalog.spans_apart registeredOwn registeredBefore same inside

private theorem Isolated.flushPage (isolated : database.Isolated start journal)
    (setUp : start.SetUp) {flushed : Database} {done : List PageId}
    (before : database.Flushed flushed done) (page : PageId) :
    ∃ next, flushed.flushPage page = .ok next ∧ database.Flushed next (done ++ [page]) := by
  cases resident : database.pool.residentFrame? page with
  | none =>
      have found := before.resident page
      rw [resident] at found
      refine ⟨flushed, ?_, before.skip ?_⟩
      · unfold Database.flushPage
        rw [found]
        rfl
      · intro frame content impossible
        rw [resident] at impossible
        cases impossible
  | some entry =>
      obtain ⟨frame, content⟩ := entry
      have found := before.resident page
      rw [resident] at found
      by_cases later : page ∈ done
      · refine ⟨flushed, ?_, before.skip ?_⟩
        · unfold Database.flushPage
          rw [found]
          simp [later, Page.isDirty, Page.mark]
        · intro _ _ _ notDone
          exact absurd later notDone
      · cases dirty : content.isDirty with
        | true => exact isolated.flush setUp before resident later dirty
        | false =>
            refine ⟨flushed, ?_, before.skip ?_⟩
            · unfold Database.flushPage
              rw [found]
              simp [later, dirty]
            · intro again other foundAgain _
              rw [resident] at foundAgain
              cases foundAgain
              have unowned : content.owner = none := by simpa [Page.isDirty] using dirty
              have onDisk := isolated.clean page frame content resident unowned
              obtain ⟨file, _, read⟩ := diskPage?_eq_some.mp onDisk
              exact ⟨unowned, onDisk, (TableFile.wellFormed_of_readPage read).2.2.2.2.2⟩

theorem Isolated.flushEach (isolated : database.Isolated start journal)
    (setUp : start.SetUp) {flushed : Database} {done : List PageId}
    (before : database.Flushed flushed done) (pages : List PageId) :
    ∃ next, flushed.flushEach pages = (next, .ok ()) ∧
      database.Flushed next (done ++ pages) := by
  induction pages generalizing flushed done with
  | nil => exact ⟨flushed, rfl, by rwa [List.append_nil]⟩
  | cons page rest ih =>
      obtain ⟨middle, writes, after⟩ := isolated.flushPage setUp before page
      obtain ⟨next, writesRest, all⟩ := ih after
      refine ⟨next, ?_, ?_⟩
      · unfold Database.flushEach
        rw [writes]
        exact writesRest
      · rwa [List.append_assoc, List.singleton_append] at all

end

/-! ### Dropping what a transaction wrote -/

theorem resident_dismiss (database : Database) (transaction : TransactionId)
    (page : PageId) :
    (database.dismiss transaction).pool.residentFrame? page =
      if page ∈ database.pool.writtenBy transaction then none
      else database.pool.residentFrame? page :=
  Pool.residentFrame?_discardEach database.pool (database.pool.writtenBy transaction) page

theorem mem_writtenBy_dismiss {database : Database} {transaction other : TransactionId}
    {page : PageId} :
    page ∈ (database.dismiss transaction).pool.writtenBy other ↔
      other ≠ transaction ∧ page ∈ database.pool.writtenBy other := by
  have kept := (database.pool.discardEach_kept (database.pool.writtenBy transaction)).2
  refine Pool.mem_writtenBy_forgetWrites.trans ?_
  rw [kept]

theorem locks_dismiss (database : Database) (transaction : TransactionId) :
    (database.dismiss transaction).pool.locks = database.pool.locks.releaseAll transaction := by
  have kept := (database.pool.discardEach_kept (database.pool.writtenBy transaction)).1
  change LockTable.releaseAll
    (database.pool.discardEach (database.pool.writtenBy transaction)).locks transaction = _
  rw [kept]

section

variable {start database : Database} {journal : Journal}

private theorem Isolated.dismiss (isolated : database.Isolated start journal)
    {transaction : TransactionId} {flushed : Database} {done : List PageId}
    (before : database.Flushed flushed done)
    (only : ∀ page ∈ done, page ∈ database.pool.writtenBy transaction)
    {committed : List Change}
    (disk : flushed.stored = replay start.stored (committed.map Change.cut)) :
    (flushed.dismiss transaction).Isolated start
      { journal.abort transaction with committed := committed } := by
  have writtenBy (other : TransactionId) :
      flushed.pool.writtenBy other = database.pool.writtenBy other := by
    unfold Pool.writtenBy
    rw [before.written]
  have locks := flushed.locks_dismiss transaction
  rw [before.locks] at locks
  -- What is left in the pool is what other transactions wrote, or is clean, and was not written.
  have left {page : PageId} {frame : Nat} {content : Page}
      (found : (flushed.dismiss transaction).pool.residentFrame? page = some (frame, content)) :
      page ∉ database.pool.writtenBy transaction ∧ page ∉ done ∧
        database.pool.residentFrame? page = some (frame, content) := by
    rw [resident_dismiss, writtenBy] at found
    split at found
    · cases found
    · rename_i others
      have notDone : page ∉ done := fun member => others (only page member)
      rw [before.resident] at found
      obtain ⟨entry, resident, same⟩ := Option.map_eq_some_iff.mp found
      rw [if_neg notDone] at same
      exact ⟨others, notDone, resident.trans (congrArg some same)⟩
  have onDisk {page : PageId} (notDone : page ∉ done) :
      flushed.diskPage? page = database.diskPage? page := by
    rw [before.disk]
    cases database.pool.residentFrame? page with
    | none => rfl
    | some entry => simp [notDone]
  have apart {other : TransactionId} {page : PageId}
      (member : page ∈ database.pool.writtenBy other) (different : other ≠ transaction) :
      page ∉ database.pool.writtenBy transaction := by
    intro both
    have alone := isolated.written transaction page both
    exact different
      ((isolated.exclusive page).eq_of_modeOf? alone (isolated.written other page member))
  constructor
  · exact before.catalog.trans isolated.catalog
  · rw [locks]
    exact isolated.exclusive.releaseAll transaction
  · exact before.sound.discardEach _
  · intro other page member
    obtain ⟨different, memberBefore⟩ := mem_writtenBy_dismiss.mp member
    rw [writtenBy] at memberBefore
    rw [locks, LockTable.lockMode?_releaseAll, if_neg (fun both => different both.1)]
    exact isolated.written other page memberBefore
  · intro page frame content found
    obtain ⟨_, notDone, resident⟩ := left found
    obtain ⟨wellFormed, old, was, shape⟩ := isolated.backs page frame content resident
    refine ⟨wellFormed, old, ?_, shape⟩
    have same := onDisk notDone
    rw [isolated.sound.id_eq resident] at was ⊢
    exact same.trans was
  · intro page frame content found clean
    obtain ⟨_, notDone, resident⟩ := left found
    exact (onDisk notDone).trans (isolated.clean page frame content resident clean)
  · intro page frame content owner found owned
    obtain ⟨others, notDone, resident⟩ := left found
    obtain ⟨member, shows⟩ := isolated.dirty page frame content owner resident owned
    have different : owner ≠ transaction := by
      rintro rfl
      exact others member
    refine ⟨mem_writtenBy_dismiss.mpr ⟨different, ?_⟩, ?_⟩
    · rw [writtenBy]
      exact member
    · intro slot
      rw [shows slot]
      simp only [Journal.abort, if_neg different]
      apply replay_congr
      rw [isolated.sound.id_eq resident]
      exact (stored_congr (onDisk notDone) slot).symm
  · intro owner change changes
    simp only [Journal.abort] at changes
    split at changes
    · cases changes
    · rename_i different
      obtain ⟨frame, content, resident, owned⟩ := isolated.pending owner change changes
      obtain ⟨member, _⟩ := isolated.dirty change.record.page frame content owner resident owned
      have others := apart member different
      have notDone : change.record.page ∉ done := fun inside => others (only _ inside)
      refine ⟨frame, content, ?_, owned⟩
      rw [resident_dismiss, writtenBy, if_neg others, before.resident, resident]
      simp [notDone]
  · exact disk

theorem Isolated.abort (isolated : database.Isolated start journal)
    (transaction : TransactionId) :
    (database.abort transaction).Isolated start (journal.abort transaction) ∧
      (database.abort transaction).pool.locks = database.pool.locks.releaseAll transaction := by
  constructor
  · exact isolated.dismiss (.nothing isolated.sound)
      (fun _ impossible => absurd impossible (List.not_mem_nil)) isolated.disk
  · exact database.locks_dismiss transaction

private theorem Isolated.stored_flushed (isolated : database.Isolated start journal)
    {transaction : TransactionId} {flushed : Database}
    (before : database.Flushed flushed (database.pool.writtenBy transaction)) :
    flushed.stored =
      replay database.stored ((journal.pending transaction).map Change.cut) := by
  have cut : (fun record => (database.stored record).map (fun fields => fields.map Field.stored)) =
      database.stored := funext database.stored_cut
  funext record
  obtain ⟨page, slot⟩ := record
  have whole := cut_replay database.stored (journal.pending transaction) ⟨page, slot⟩
  rw [cut] at whole
  rw [← whole]
  -- A page that is not written has none of the transaction's changes.
  have unwritten (same : flushed.diskPage? page = database.diskPage? page)
      (others : ∀ frame content, database.pool.residentFrame? page = some (frame, content) →
        content.owner ≠ some transaction) :
      flushed.stored ⟨page, slot⟩ = (replay database.stored (journal.pending transaction)
        ⟨page, slot⟩).map (fun fields => fields.map Field.stored) := by
    rw [isolated.replay_of_clean transaction others, stored_cut]
    exact stored_congr same slot
  by_cases member : page ∈ database.pool.writtenBy transaction
  · cases resident : database.pool.residentFrame? page with
    | none =>
        apply unwritten
        · rw [before.disk, resident]
        · intro frame content impossible
          rw [resident] at impossible
          cases impossible
    | some entry =>
        obtain ⟨frame, content⟩ := entry
        have alone := isolated.written transaction page member
        have shows := isolated.shows resident alone slot
        rw [isolated.sound.id_eq resident] at shows
        have onDisk : flushed.diskPage? page = some content.cut := by
          rw [before.disk, resident]
          simp [member]
        rw [stored_of_diskPage? onDisk, content.row?_cut, ← shows, Option.map_map, Option.map_map]
        rfl
  · apply unwritten
    · rw [before.disk]
      cases database.pool.residentFrame? page with
      | none => rfl
      | some entry => simp [member]
    · intro frame content resident owned
      exact member (isolated.dirty page frame content transaction resident owned).1

theorem Isolated.commit (isolated : database.Isolated start journal) (setUp : start.SetUp)
    (transaction : TransactionId) :
    (database.commit transaction).2 = .ok () ∧
      (database.commit transaction).1.Isolated start (journal.commit transaction) ∧
        (database.commit transaction).1.pool.locks =
          database.pool.locks.releaseAll transaction := by
  obtain ⟨flushed, writes, before⟩ :=
    isolated.flushEach setUp (.nothing isolated.sound) (database.pool.writtenBy transaction)
  rw [List.nil_append] at before
  unfold Database.commit flushTransaction
  rw [writes]
  refine ⟨rfl, ?_, ?_⟩
  · refine isolated.dismiss before (fun _ member => member) ?_
    rw [isolated.stored_flushed before, isolated.disk, List.map_append, replay_append]
    rfl
  · rw [← before.locks]
    exact flushed.locks_dismiss transaction

end

end Database

end RowStore
