import RowStore.Proofs.Catalog
import RowStore.Proofs.Database.Provenance
import RowStore.Proofs.Database.Undamaged

/-!
Trials: what an insertion comes to at each page that it tries, and how many pages it has left to
try. A page that was changed is always taken over, and at most one page is added.
-/

set_option autoImplicit false

namespace RowStore

/-! ### Growth of the disk -/

namespace TableFile

section

variable {file : TableFile} {volume : Volume}

theorem image?_appendInPart_new {number written : Nat} {bytes : List UInt8}
    (absent : file.image? volume number = none)
    (onDisk : file.image? (file.appendInPart volume written) number = some bytes) :
    bytes = Page.emptyImage file.pageSize := by
  have short : (volume.bytes file.path).length < number * file.pageSize + file.pageSize := by
    rw [← Nat.not_le, ← isSome_image?_iff, absent]
    exact Bool.false_ne_true
  have length : (Page.emptyImage file.pageSize).length = (file.pages volume).pageSize :=
    List.length_replicate
  have read := image?_eq_some.mp onDisk
  unfold appendInPart at read
  rw [pages_putInPart] at read
  exact PagedFile.read_putInPart_new length short read

end

end TableFile

namespace Database

/-- All that the operation may have done to the disk: an insertion may have added one page of zeros
at the end of its table's file. -/
structure GrowsFor (before after : Database) (operation : Operation) : Prop where
  volume : after.volume = before.volume ∨ ∃ transaction table row file,
    operation = .insert transaction table row ∧ before.catalog.file table = .ok file ∧
      after.volume = (file.appendEmptyPage before.volume).1
  images : ∀ page bytes, before.image? page = some bytes → after.image? page = some bytes
  added : ∀ page bytes, after.image? page = some bytes → before.image? page = some bytes ∨
    ∃ transaction row file, operation = .insert transaction page.table row ∧
      before.catalog.file page.table = .ok file ∧ bytes = Page.emptyImage file.pageSize

/-- All that the operation may have done to the disk when the disk refuses something: an insertion
may have added a page of zeros, or part of one. -/
structure FraysFor (before after : Database) (operation : Operation) : Prop where
  volume : after.volume = before.volume ∨ ∃ transaction table row file,
    operation = .insert transaction table row ∧ before.catalog.file table = .ok file ∧
      (after.volume = (file.appendEmptyPage before.volume).1 ∨
        ∃ written, after.volume = file.appendInPart before.volume written)
  images : ∀ page bytes, before.image? page = some bytes → after.image? page = some bytes
  added : ∀ page bytes, after.image? page = some bytes → before.image? page = some bytes ∨
    ∃ transaction row file, operation = .insert transaction page.table row ∧
      before.catalog.file page.table = .ok file ∧ bytes = Page.emptyImage file.pageSize

/-- The number of pages of every table can be told, and so can it with one page more. -/
def Countable (database : Database) : Prop :=
  ∀ table file, database.catalog.file table = .ok file →
    file.pageCount database.volume + 1 < UInt32.size

instance (database : Database) : Decidable database.Countable :=
  decidable_of_iff (∀ entry ∈ database.catalog.tables.toList,
    entry.2.file.pageCount database.volume + 1 < UInt32.size) (by
      constructor
      · intro all table file registered
        obtain ⟨entry, listed, rfl⟩ := Catalog.file_eq_ok.mp registered
        exact all (table, entry) (Std.ExtTreeMap.mem_toList_iff_getElem?_eq_some.mpr listed)
      · rintro countable ⟨table, entry⟩ member
        exact countable table entry.file (Catalog.file_eq_ok.mpr
          ⟨entry, Std.ExtTreeMap.mem_toList_iff_getElem?_eq_some.mp member, rfl⟩))

/-- The page count of every table is told as it is. -/
def CountsTold (database : Database) : Prop :=
  ∀ table file, database.catalog.file table = .ok file →
    file.toldCount database.volume = file.pageCount database.volume

section

variable {before after : Database} {operation : Operation}

theorem GrowsFor.frays (grows : before.GrowsFor after operation) :
    before.FraysFor after operation := by
  refine ⟨grows.volume.imp_right ?_, grows.images, grows.added⟩
  rintro ⟨transaction, table, row, file, own, registered, volume⟩
  exact ⟨transaction, table, row, file, own, registered, .inl volume⟩

theorem GrowsFor.countsTold {numbering : String → TableId} (grows : before.GrowsFor after operation)
    (sound : before.catalog.Sound numbering) (catalog : after.catalog = before.catalog)
    (countable : before.Countable) : after.CountsTold := by
  intro table file registered
  rw [catalog] at registered
  have few := countable table file registered
  apply TableFile.toldCount_of_lt
  rcases grows.volume with same | ⟨_, other, _, own, _, registeredOwn, volume⟩
  · rw [same]
    omega
  · refine Nat.lt_of_le_of_lt ?_ few
    rw [volume]
    by_cases mine : other = table
    · subst mine
      cases registered.symm.trans registeredOwn
      exact file.pageCount_appendEmptyPage_le before.volume
    · have apart := sound.path_ne registeredOwn registered mine
      exact Nat.le_succ_of_le
        (Nat.le_of_eq (TableFile.pageCount_write_of_ne apart before.volume _))

theorem growsFor_of_same (catalog : after.catalog = before.catalog)
    (volume : after.volume = before.volume) : before.GrowsFor after operation := by
  have same (page : PageId) : after.image? page = before.image? page := by
    unfold image?
    rw [catalog, volume]
  refine ⟨.inl volume, ?_, ?_⟩
  · intro page bytes onDisk
    rw [same]
    exact onDisk
  · intro page bytes onDisk
    rw [same] at onDisk
    exact .inl onDisk

/-- A file that keeps its pages may get new ones. The other files stay as they are. -/
private theorem image?_of_write {numbering : String → TableId}
    (sound : before.catalog.Sound numbering) {table : TableId} {file : TableFile}
    (registered : before.catalog.file table = .ok file) (catalog : after.catalog = before.catalog)
    {data : List UInt8} (volume : after.volume = before.volume.write file.path data)
    (kept : ∀ number bytes, file.image? before.volume number = some bytes →
      file.image? after.volume number = some bytes) (page : PageId) :
    (∀ bytes, before.image? page = some bytes → after.image? page = some bytes) ∧
      ∀ bytes, after.image? page = some bytes → before.image? page = some bytes ∨
        page.table = table ∧ file.image? before.volume page.number = none ∧
          file.image? after.volume page.number = some bytes := by
  by_cases mine : page.table = table
  · subst mine
    have foundAfter : after.catalog.file page.table = .ok file := by
      rw [catalog]
      exact registered
    have before? : before.image? page = file.image? before.volume page.number := by
      unfold image?
      rw [registered]
      rfl
    have after? : after.image? page = file.image? after.volume page.number := by
      unfold image?
      rw [foundAfter]
      rfl
    rw [before?, after?]
    refine ⟨kept page.number, ?_⟩
    intro bytes onDisk
    cases old : file.image? before.volume page.number with
    | none => exact .inr ⟨rfl, rfl, onDisk⟩
    | some known =>
        rw [kept page.number known old] at onDisk
        exact .inl onDisk
  · have same : after.image? page = before.image? page := by
      unfold image?
      rw [catalog]
      cases found : before.catalog.file page.table with
      | error fault => rfl
      | ok own =>
          have apart : file.path ≠ own.path := sound.path_ne registered found (Ne.symm mine)
          dsimp only
          rw [volume, TableFile.pages_write_of_ne apart]
    rw [same]
    exact ⟨fun _ onDisk => onDisk, fun _ onDisk => .inl onDisk⟩

theorem growsFor_of_appended {numbering : String → TableId}
    (sound : before.catalog.Sound numbering) {table : TableId} {file : TableFile}
    (registered : before.catalog.file table = .ok file) (transaction : TransactionId) (row : Row)
    (catalog : after.catalog = before.catalog)
    (volume : after.volume = (file.appendEmptyPage before.volume).1) :
    before.GrowsFor after (.insert transaction table row) := by
  have images := image?_of_write sound registered catalog volume fun number bytes onDisk => by
    rw [volume]
    exact TableFile.image?_appendEmptyPage onDisk
  refine ⟨.inr ⟨transaction, table, row, file, rfl, registered, volume⟩,
    fun page => (images page).1, ?_⟩
  intro page bytes onDisk
  refine ((images page).2 bytes onDisk).imp_right ?_
  rintro ⟨rfl, absent, added⟩
  rw [volume] at added
  exact ⟨transaction, row, file, rfl, registered,
    TableFile.image?_appendEmptyPage_new absent added⟩

theorem fraysFor_of_appended {numbering : String → TableId}
    (sound : before.catalog.Sound numbering) {table : TableId} {file : TableFile}
    (registered : before.catalog.file table = .ok file) (transaction : TransactionId) (row : Row)
    (catalog : after.catalog = before.catalog) {written : Nat}
    (volume : after.volume = file.appendInPart before.volume written) :
    before.FraysFor after (.insert transaction table row) := by
  have images := image?_of_write sound registered catalog volume fun number bytes onDisk => by
    rw [volume]
    exact TableFile.image?_appendInPart written onDisk
  refine ⟨.inr ⟨transaction, table, row, file, rfl, registered, .inr ⟨written, volume⟩⟩,
    fun page => (images page).1, ?_⟩
  intro page bytes onDisk
  refine ((images page).2 bytes onDisk).imp_right ?_
  rintro ⟨rfl, absent, added⟩
  rw [volume] at added
  exact ⟨transaction, row, file, rfl, registered,
    TableFile.image?_appendInPart_new absent added⟩

end

/-! ### Handing over -/

/-- Once the task has changed its page, the page is taken over. -/
def HandsOver (database : Database) : Task → Prop
  | .inserting insertion handover =>
      ∀ tried row frame page, insertion.tryPage database = (tried, .stored row frame page) →
        (Progress.handOver tried insertion.transaction frame page handover).2 = .ok ()
  | .deleting transaction row page handover =>
      ∀ loaded frame content changed,
        (database.noteAccess transaction page .write).load page = .ok (loaded, frame, content) →
          content.delete row = .ok changed →
            (Progress.handOver (loaded.setFrame frame (changed.mark (some transaction)))
              transaction frame (changed.mark (some transaction)) handover).2 = .ok ()
  | _ => True

section

variable {database : Database} {transaction : TransactionId} {insertion : Insertion}

theorem handOver_setFrame (sound : database.pool.Sound) {page : PageId} {frame : Nat}
    {content changed : Page} (found : database.pool.residentFrame? page = some (frame, content))
    (id : changed.id = content.id) (transaction : TransactionId) (handover : Handover) :
    ∃ handed, Progress.handOver (database.setFrame frame (changed.mark (some transaction)))
        transaction frame (changed.mark (some transaction)) handover = (handed, .ok ()) ∧
      handed.catalog = database.catalog ∧ handed.volume = database.volume := by
  cases handover with
  | toCaller => exact ⟨_, rfl, rfl, rfl⟩
  | toPool =>
      have resident := (sound.residentFrame?_setFrame found (changed.mark (some transaction))
        page).trans (if_pos rfl)
      exact ⟨_, absorb_of_resident resident (id.trans (sound.id_eq found)) rfl, rfl, rfl⟩

inductive Examines (database : Database) (insertion : Insertion) : Database × Trial → Prop where
  | failed {next : Database} (fault : Fault) (catalog : next.catalog = database.catalog)
      (volume : next.volume = database.volume) : Examines database insertion (next, .failed fault)
  | full {loaded : Database} {content : Page} (volume : loaded.volume = database.volume)
      (full : content.isFull = true)
      (origin : (∃ frame, database.pool.residentFrame? insertion.page = some (frame, content)) ∨
        database.diskPage? insertion.page = some content)
      (absent : ∀ other, other ≠ insertion.page →
        database.pool.residentFrame? other = none → loaded.pool.residentFrame? other = none) :
      Examines database insertion
        ((insertion.skip loaded).1, .noRoom (insertion.skip loaded).2)
  | stored {loaded : Database} {frame : Nat} {content changed : Page} (row : Row)
      (catalog : loaded.catalog = database.catalog) (volume : loaded.volume = database.volume)
      (sound : loaded.pool.Sound)
      (found : loaded.pool.residentFrame? insertion.page = some (frame, content))
      (id : changed.id = content.id) :
      Examines database insertion
        (loaded.setFrame frame (changed.mark (some insertion.transaction)),
          .stored row frame (changed.mark (some insertion.transaction)))

theorem Steady.examines (steady : database.Steady) (insertion : Insertion) :
    database.Examines insertion (insertion.tryPage database) := by
  have noted := steady.noteAccess insertion.transaction insertion.page .write
  unfold Insertion.tryPage
  dsimp only
  cases loads : (database.noteAccess insertion.transaction insertion.page .write).load
      insertion.page with
  | error fault => exact .failed fault rfl rfl
  | ok reached =>
      obtain ⟨loaded, frame, content⟩ := reached
      obtain ⟨pool, rfl, takes, origin⟩ := load_cases noted.sound loads
      dsimp only
      cases full : content.isFull with
      | true =>
          refine .full rfl full ?_ ?_
          · rcases origin with resident | ⟨_, onDisk⟩
            · exact .inl ⟨frame, resident⟩
            · exact .inr onDisk
          · intro other different absent
            rcases takes.others other different with stays | ⟨gone, _⟩
            · exact stays.trans absent
            · exact gone
      | false =>
          cases inserts : content.insert insertion.row with
          | error fault => exact .failed fault rfl rfl
          | ok answer =>
              obtain ⟨changed, row⟩ := answer
              exact .stored row rfl rfl takes.sound takes.found (Page.id_of_insert inserts)

/-- How far an insertion has come that is refused under a lock. If it has added part of a page, the
page that it tried is full, and the last one that was counted. -/
inductive Halted (database : Database) (insertion : Insertion) (reached : Database) : Prop where
  | kept (volume : reached.volume = database.volume)
  | frayed {content : Page} (written : Nat)
      (volume : reached.volume = insertion.file.appendInPart database.volume written)
      (full : content.isFull = true)
      (origin : (∃ frame, database.pool.residentFrame? insertion.page = some (frame, content)) ∨
        database.diskPage? insertion.page = some content)

private theorem halted_of_skipRefused? {loaded reached : Database} {refusal : Refusal}
    (volume : loaded.volume = database.volume) {content : Page} (full : content.isFull = true)
    (origin : (∃ frame, database.pool.residentFrame? insertion.page = some (frame, content)) ∨
      database.diskPage? insertion.page = some content)
    (refuses : insertion.skipRefused? loaded refusal = some reached) :
    database.Halted insertion reached := by
  unfold Insertion.skipRefused? at refuses
  split at refuses
  · cases refuses
  · cases refusal with
    | reading => cases refuses
    | counting =>
        cases refuses
        exact .kept volume
    | adding written =>
        unfold Insertion.advanceRefused? at refuses
        dsimp only at refuses
        split at refuses
        · cases refuses
        · cases refuses
          refine .frayed written ?_ full origin
          change insertion.file.appendInPart loaded.volume written = _
          rw [volume]

theorem Steady.halted (steady : database.Steady) {handover : Handover} {refusal : Refusal}
    {cause : DiskCause} {reached : Database} {outcome : Outcome}
    (refuses : Progress.ofTaskRefused? database refusal cause (.inserting insertion handover) =
      some (reached, outcome)) :
    outcome = .failed (.disk cause) ∧ database.Halted insertion reached := by
  have noted := steady.noteAccess insertion.transaction insertion.page .write
  have behind (loaded : Database) (frame : Nat) (content : Page)
      (loads : (database.noteAccess insertion.transaction insertion.page .write).load
        insertion.page = .ok (loaded, frame, content))
      (refuses : (if content.isFull = true then
        (insertion.skipRefused? loaded refusal).map (fun reached =>
          (reached, Outcome.failed (.disk cause))) else none) = some (reached, outcome)) :
      outcome = .failed (.disk cause) ∧ database.Halted insertion reached := by
    obtain ⟨pool, rfl, _, origin⟩ := load_cases noted.sound loads
    split at refuses
    · rename_i full
      obtain ⟨skipped, skips, same⟩ := Option.map_eq_some_iff.mp refuses
      cases same
      refine ⟨rfl, halted_of_skipRefused? ?_ full ?_ skips⟩
      · rfl
      · rcases origin with resident | ⟨_, onDisk⟩
        · exact .inl ⟨frame, resident⟩
        · exact .inr onDisk
    · cases refuses
  unfold Progress.ofTaskRefused? Progress.loadRefused? at refuses
  cases refusal with
  | reading =>
      dsimp only at refuses
      split at refuses
      · cases refuses
        exact ⟨rfl, .kept rfl⟩
      · cases refuses
  | _ =>
      dsimp only at refuses
      split at refuses
      · rename_i loads
        exact behind _ _ _ loads refuses
      · cases refuses

theorem Steady.handsOver (steady : database.Steady) (task : Task) : database.HandsOver task := by
  cases task with
  | inserting insertion handover =>
      intro tried row frame page came
      have examines := steady.examines insertion
      rw [came] at examines
      cases examines with
      | stored row catalog volume sound found id =>
          obtain ⟨handed, hands, _⟩ :=
            handOver_setFrame sound found id insertion.transaction handover
          rw [hands]
  | deleting transaction row page handover =>
      intro loaded frame content changed loads deletes
      have noted := steady.noteAccess transaction page .write
      obtain ⟨path, found⟩ := path_load noted.sound loads
      obtain ⟨handed, hands, _⟩ := handOver_setFrame (path.steady noted).sound found
        (Page.id_of_delete deletes) transaction handover
      rw [hands]
  | _ => trivial

end

/-! ### Pages left to try -/

/-- The insertion is at a page that its table had before, with a turn left for each such page behind
it and for one more, or at a page that was added, which it has not loaded. -/
inductive Nears (before database : Database) (insertion : Insertion) (bound : Nat) : Prop where
  | among (volume : database.volume = before.volume)
      (counted : insertion.limit = insertion.file.pageCount before.volume)
      (inside : insertion.nextPage < insertion.limit)
      (left : insertion.limit < insertion.nextPage + bound)
  | added (volume : database.volume = (insertion.file.appendEmptyPage before.volume).1)
      (last : insertion.nextPage = insertion.file.pageCount before.volume)
      (absent : database.pool.residentFrame? insertion.page = none) (left : 0 < bound)

section

variable {before database loaded : Database} {insertion : Insertion} {bound : Nat}

theorem Nears.pos (nears : before.Nears database insertion bound) : 0 < bound := by
  cases nears with
  | among volume counted inside left => omega
  | added volume last absent left => exact left

theorem Stocked.absent {numbering : String → TableId} (stocked : before.Stocked)
    (sound : before.catalog.Sound numbering) {table : TableId} {file : TableFile}
    (registered : before.catalog.file table = .ok file) :
    before.pool.residentFrame? (file.pageId (file.pageCount before.volume)) = none := by
  cases found : before.pool.residentFrame? (file.pageId (file.pageCount before.volume)) with
  | none => rfl
  | some entry =>
      obtain ⟨own, registeredOwn, inside⟩ := stocked _ entry.1 entry.2 found
      change before.catalog.file file.id = .ok own at registeredOwn
      rw [(sound.file registered).1, registered] at registeredOwn
      cases registeredOwn
      exact absurd inside (Nat.lt_irrefl _)

theorem Undamaged.stocked (undamaged : before.Undamaged database) (stocked : before.Stocked)
    (volume : database.volume = before.volume) : database.Stocked := by
  intro page frame content found
  rcases undamaged.pages page frame content found with earlier | ⟨_, onDisk⟩
  · rw [undamaged.catalog, volume]
    exact stocked page frame content earlier
  · obtain ⟨file, registered, read⟩ := diskPage?_eq_some.mp onDisk
    exact ⟨file, registered, (TableFile.lt_pageCount_of_readPage read).2⟩

theorem nears_start {numbering : String → TableId} (stocked : before.Stocked)
    (sound : before.catalog.Sound numbering) {table : TableId}
    (registered : before.catalog.file table = .ok insertion.file)
    (enough : insertion.file.pageCount before.volume < bound) :
    before.Nears (insertion.advance before 0).1 (insertion.advance before 0).2 bound := by
  unfold Insertion.advance
  dsimp only
  split
  · rename_i some
    exact .among rfl rfl some (by simpa using enough)
  · exact .added rfl rfl (stocked.absent sound registered) (Nat.zero_lt_of_lt enough)

theorem pageCount_le_advance (database : Database) (insertion : Insertion) (tried : Nat) :
    insertion.file.pageCount database.volume ≤
      insertion.file.pageCount (insertion.advance database tried).1.volume := by
  unfold Insertion.advance
  dsimp only
  split
  · exact Nat.le_refl _
  · exact insertion.file.pageCount_le_put insertion.file database.volume _ _

theorem Steady.undamaged_advance (steady : database.Steady) {table : TableId}
    (registered : database.catalog.file table = .ok insertion.file) (tried : Nat) :
    database.Undamaged (insertion.advance database tried).1 := by
  unfold Insertion.advance
  dsimp only
  split
  · exact .refl database
  · exact undamaged_grow steady registered

/-- Behind the last page that the table had, the page that is added is not in the pool. -/
private theorem nears_appended (stocked : before.Stocked) (undamaged : before.Undamaged database)
    (steady : database.Steady) {table : TableId}
    (registered : before.catalog.file table = .ok insertion.file)
    (same : database.volume = before.volume) (volume : loaded.volume = database.volume)
    (last : insertion.nextPage + 1 = insertion.file.pageCount before.volume)
    (absent : ∀ other, other ≠ insertion.page →
      database.pool.residentFrame? other = none → loaded.pool.residentFrame? other = none)
    (left : 0 < bound) :
    before.Nears (loaded.appendEmptyPage insertion.file).1
      { insertion with
        nextPage := insertion.file.pageCount loaded.volume
        limit := insertion.file.pageCount loaded.volume + 1 } bound := by
  have loadedVolume := volume.trans same
  refine .added ?_ ?_ ?_ left
  · change (insertion.file.appendEmptyPage loaded.volume).1 = _
    rw [loadedVolume]
  · dsimp only
    rw [loadedVolume]
  · change loaded.pool.residentFrame?
      (insertion.file.pageId (insertion.file.pageCount loaded.volume)) = none
    rw [loadedVolume]
    refine absent _ ?_ ?_
    · unfold Insertion.page TableFile.pageId
      rw [ne_eq, PageId.mk.injEq]
      omega
    · rw [← undamaged.catalog] at registered
      have none := (undamaged.stocked stocked same).absent steady.catalog registered
      rwa [same] at none

private theorem isFull_of_added (undamaged : before.Undamaged database)
    (steady : database.Steady) {table : TableId}
    (registered : before.catalog.file table = .ok insertion.file)
    (grown : database.volume = (insertion.file.appendEmptyPage before.volume).1)
    (last : insertion.nextPage = insertion.file.pageCount before.volume)
    (unloaded : database.pool.residentFrame? insertion.page = none) {content : Page}
    (origin : (∃ frame, database.pool.residentFrame? insertion.page = some (frame, content)) ∨
      database.diskPage? insertion.page = some content) : content.isFull = false := by
  rcases origin with ⟨frame, found⟩ | onDisk
  · cases unloaded.symm.trans found
  · obtain ⟨own, found, read⟩ := diskPage?_eq_some.mp onDisk
    change database.catalog.file insertion.file.id = .ok own at found
    rw [← undamaged.catalog] at registered
    rw [(steady.catalog.file registered).1, registered] at found
    cases found
    unfold Insertion.page at read
    rw [grown, last] at read
    exact TableFile.isFull_of_added read

/-- A page without room is none that was added, and the insertion goes on behind it. -/
theorem Nears.skip (nears : before.Nears database insertion (bound + 1))
    (stocked : before.Stocked) (undamaged : before.Undamaged database) (steady : database.Steady)
    {table : TableId} (registered : before.catalog.file table = .ok insertion.file)
    {content : Page} (volume : loaded.volume = database.volume) (full : content.isFull = true)
    (origin : (∃ frame, database.pool.residentFrame? insertion.page = some (frame, content)) ∨
      database.diskPage? insertion.page = some content)
    (absent : ∀ other, other ≠ insertion.page →
      database.pool.residentFrame? other = none → loaded.pool.residentFrame? other = none) :
    before.Nears (insertion.skip loaded).1 (insertion.skip loaded).2 bound := by
  cases nears with
  | added grown last unloaded left =>
      rw [isFull_of_added undamaged steady registered grown last unloaded origin] at full
      cases full
  | among same counted inside left =>
      unfold Insertion.skip
      split
      · rename_i more
        exact .among (volume.trans same) counted more (by dsimp only; omega)
      · have all : ¬insertion.limit < insertion.file.pageCount loaded.volume := by
          rw [volume, same, ← counted]
          exact Nat.lt_irrefl _
        unfold Insertion.advance
        dsimp only
        rw [if_neg all]
        exact nears_appended stocked undamaged steady registered same volume (by omega) absent
          (by omega)

theorem Nears.growsFor {next : Database} {numbering : String → TableId}
    (nears : before.Nears database insertion bound) (sound : before.catalog.Sound numbering)
    {table : TableId} (registered : before.catalog.file table = .ok insertion.file)
    (transaction : TransactionId) (row : Row) (catalog : next.catalog = before.catalog)
    (volume : next.volume = database.volume) :
    before.GrowsFor next (.insert transaction table row) := by
  cases nears with
  | among same counted inside left => exact growsFor_of_same catalog (volume.trans same)
  | added grown last absent left =>
      exact growsFor_of_appended sound registered transaction row catalog (volume.trans grown)

theorem Nears.fraysFor {reached : Database} (nears : before.Nears database insertion bound)
    (halted : database.Halted insertion reached) (undamaged : before.Undamaged database)
    (steady : database.Steady) {table : TableId}
    (registered : before.catalog.file table = .ok insertion.file) (transaction : TransactionId)
    (row : Row) (catalog : reached.catalog = before.catalog) :
    before.FraysFor reached (.insert transaction table row) := by
  have sound := steady.catalog
  rw [undamaged.catalog] at sound
  cases halted with
  | kept volume => exact (nears.growsFor sound registered transaction row catalog volume).frays
  | frayed written volume full origin =>
      cases nears with
      | among same counted inside left =>
          rw [same] at volume
          exact fraysFor_of_appended sound registered transaction row catalog volume
      | added grown last unloaded left =>
          rw [isFull_of_added undamaged steady registered grown last unloaded origin] at full
          cases full

end

end Database

end RowStore
