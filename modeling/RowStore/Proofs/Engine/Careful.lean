import RowStore.Proofs.Database.Custody
import RowStore.Proofs.Engine.Steps

/-!
Careful steps: no step of any operation drops a page with changes or writes over a page of the
disk, whichever locks are held.
-/

set_option autoImplicit false

namespace RowStore

/-! ### What operations are about -/

def Catalog.Lists (catalog : Catalog) (file : TableFile) : Prop :=
  ∃ table, catalog.file table = .ok file

def Task.Registered (catalog : Catalog) : Task → Prop
  | .inserting insertion _ => catalog.Lists insertion.file
  | .filling insertion _ _ _ _ => catalog.Lists insertion.file
  | _ => True

def Operation.Registered (catalog : Catalog) : Operation → Prop
  | .insertInto _ file _ => catalog.file file.id = .ok file
  | _ => True

instance (catalog : Catalog) : (operation : Operation) → Decidable (operation.Registered catalog)
  | .insertInto _ file _ => inferInstanceAs (Decidable (catalog.file file.id = .ok file))
  | .lock _ | .fetch _ _ _ | .insert _ _ _ | .fill _ _ _ _ | .delete _ _ | .deleteFrom _ _ _
  | .scan _ _ => isTrue trivial

namespace Database

structure Careful (database : Database) (next : Database × Progress) : Prop where
  spares : database.Spares next.1
  registered : ∀ task, next.2 = .waiting task → task.Registered database.catalog

section

variable {database : Database} {numbering : String → TableId}

theorem Spares.finished {next : Database} (spares : database.Spares next) (outcome : Outcome) :
    database.Careful (next, .finished outcome) := by
  refine ⟨spares, ?_⟩
  intro task impossible
  cases impossible

theorem Spares.waiting {next : Database} (spares : database.Spares next) {task : Task}
    (registered : task.Registered database.catalog) :
    database.Careful (next, .waiting task) := by
  refine ⟨spares, ?_⟩
  intro other same
  cases same
  exact registered

theorem Spares.careful {middle : Database} {next : Database × Progress}
    (spares : database.Spares middle) (careful : middle.Careful next) :
    database.Careful next := by
  refine ⟨spares.trans careful.spares, ?_⟩
  rw [← spares.catalog]
  exact careful.registered

/-! ### Insertions -/

theorem spares_advance (catalog : database.catalog.Sound numbering) (sound : database.pool.Sound)
    {insertion : Insertion} (listed : database.catalog.Lists insertion.file) (tried : Nat) :
    database.Spares (insertion.advance database tried).1 := by
  obtain ⟨table, found⟩ := listed
  unfold Insertion.advance
  dsimp only
  split
  · exact .refl sound
  · exact spares_appendEmptyPage catalog sound found

theorem spares_skip (catalog : database.catalog.Sound numbering) (sound : database.pool.Sound)
    {insertion : Insertion} (listed : database.catalog.Lists insertion.file) :
    database.Spares (insertion.skip database).1 := by
  unfold Insertion.skip
  split
  · exact .refl sound
  · exact spares_advance catalog sound listed insertion.limit

/-- A page was tried without one being lost or written. If it took the row, it is in the pool. -/
inductive Tries (database : Database) (insertion : Insertion) : Database × Trial → Prop where
  | failed {next : Database} (spares : database.Spares next) (fault : Fault) :
      Tries database insertion (next, .failed fault)
  | noRoom {next : Database} {rest : Insertion} (spares : database.Spares next)
      (file : rest.file = insertion.file) : Tries database insertion (next, .noRoom rest)
  | stored {next : Database} {row : Row} {frame : Nat} {page : Page}
      (spares : database.Spares next)
      (found : next.pool.residentFrame? page.id = some (frame, page))
      (owned : page.owner = some insertion.transaction) :
      Tries database insertion (next, .stored row frame page)

theorem spares_change (sound : database.pool.Sound) {page : PageId} {frame : Nat}
    {content changed : Page} (found : database.pool.residentFrame? page = some (frame, content))
    (id : changed.id = content.id) (transaction : TransactionId) :
    database.Spares (database.setFrame frame (changed.mark (some transaction))) ∧
      (database.setFrame frame (changed.mark (some transaction))).pool.residentFrame? changed.id =
        some (frame, changed.mark (some transaction)) := by
  refine ⟨spares_setFrame sound (Pool.residentFrame?_eq_some.mp found).2 id rfl, ?_⟩
  rw [id, sound.id_eq found]
  exact (sound.residentFrame?_setFrame found _ page).trans (if_pos rfl)

theorem tries_tryPage (catalog : database.catalog.Sound numbering) (sound : database.pool.Sound)
    {insertion : Insertion} (listed : database.catalog.Lists insertion.file) :
    database.Tries insertion (insertion.tryPage database) := by
  have noted := spares_noteAccess sound insertion.transaction insertion.page .write
  unfold Insertion.tryPage
  dsimp only
  cases loads : (database.noteAccess insertion.transaction insertion.page .write).load
      insertion.page with
  | error fault => exact .failed noted fault
  | ok reached =>
      obtain ⟨loaded, frame, page⟩ := reached
      obtain ⟨loading, found⟩ := spares_load noted.sound loads
      have reach := noted.trans loading
      dsimp only
      split
      · rw [← reach.catalog] at catalog listed
        exact .noRoom (reach.trans (spares_skip catalog reach.sound listed))
          (Insertion.carries_skip (Prod.eta (insertion.skip loaded)).symm).file
      · cases inserts : page.insert insertion.row with
        | error fault => exact .failed reach fault
        | ok inserted =>
            obtain ⟨changed, stored⟩ := inserted
            obtain ⟨changes, resident⟩ := spares_change reach.sound found
              (Page.id_of_insert inserts) insertion.transaction
            exact .stored (reach.trans changes) resident rfl

theorem spares_absorb (sound : database.pool.Sound) {transaction : TransactionId} {frame : Nat}
    {content : Page} (found : database.pool.residentFrame? content.id = some (frame, content))
    (owned : content.owner = some transaction) :
    database.Spares (database.absorb transaction frame content).1 := by
  rw [absorb_of_resident found rfl owned]
  exact spares_noteAccess sound transaction content.id .write

/-! ### Before the first lock -/

private theorem spares_start {transaction : TransactionId} {file : TableFile} {row : Row}
    (catalog : database.catalog.Sound numbering) (sound : database.pool.Sound)
    (listed : database.catalog.Lists file) {next : Database} {insertion : Insertion}
    (starts : Insertion.start database transaction file row = .ok (next, insertion)) :
    database.Spares next ∧ database.catalog.Lists insertion.file := by
  unfold Insertion.start at starts
  split at starts
  · have advances := Except.ok.inj starts
    have spares : database.Spares
        (Insertion.advance database ⟨transaction, file, row, 0, 0⟩ 0).1 :=
      spares_advance catalog sound listed 0
    rw [advances] at spares
    refine ⟨spares, ?_⟩
    rw [(Insertion.carries_advance advances).file]
    exact listed
  · cases starts

theorem careful_insertFile (catalog : database.catalog.Sound numbering)
    (sound : database.pool.Sound) (transaction : TransactionId) {file : TableFile}
    (listed : database.catalog.Lists file) (row : Row) (handover : Handover) :
    database.Careful (Progress.insertFile database transaction file row handover) := by
  unfold Progress.insertFile
  cases starts : Insertion.start database transaction file row with
  | error fault => exact (Spares.refl sound).finished _
  | ok started =>
      obtain ⟨spares, listedOn⟩ := spares_start catalog sound listed starts
      exact spares.waiting listedOn

theorem careful_insertTable (catalog : database.catalog.Sound numbering)
    (sound : database.pool.Sound) (transaction : TransactionId) (table : TableId) (row : Row) :
    database.Careful (Progress.insertTable database transaction table row) := by
  unfold Progress.insertTable
  cases found : database.catalog.file table with
  | error fault => exact (Spares.refl sound).finished _
  | ok file => exact careful_insertFile catalog sound transaction ⟨table, found⟩ row .toPool

theorem careful_fillNext (catalog : database.catalog.Sound numbering)
    (sound : database.pool.Sound) (transaction : TransactionId) (table : TableId) (row : Row)
    (left stored : Nat) (last : Option RecordId) :
    database.Careful (Progress.fillNext database transaction table row left stored last) := by
  unfold Progress.fillNext
  split
  · exact (Spares.refl sound).finished _
  · cases found : database.catalog.file table with
    | error fault => exact (Spares.refl sound).finished _
    | ok file =>
        dsimp only
        cases starts : Insertion.start database transaction file row with
        | error fault => exact (Spares.refl sound).finished _
        | ok started =>
            obtain ⟨spares, listedOn⟩ := spares_start catalog sound ⟨table, found⟩ starts
            exact spares.waiting listedOn

theorem careful_deleteFile (sound : database.pool.Sound) (transaction : TransactionId)
    (file : TableFile) (row : Row) (handover : Handover) :
    database.Careful (Progress.deleteFile database transaction file row handover) := by
  unfold Progress.deleteFile
  cases row.record with
  | none => exact (Spares.refl sound).finished _
  | some record =>
      dsimp only
      split
      · exact (Spares.refl sound).waiting trivial
      · exact (Spares.refl sound).finished _

theorem careful_deleteTable (sound : database.pool.Sound) (transaction : TransactionId)
    (row : Row) : database.Careful (Progress.deleteTable database transaction row) := by
  unfold Progress.deleteTable
  cases row.record with
  | none => exact (Spares.refl sound).finished _
  | some record =>
      dsimp only
      cases database.catalog.file record.page.table with
      | error fault => exact (Spares.refl sound).finished _
      | ok file => exact careful_deleteFile sound transaction file row .toPool

theorem careful_scanNext (sound : database.pool.Sound) (scan : Scan) (left : Nat)
    (rows : List Row) : database.Careful (Progress.scanNext database scan left rows) := by
  unfold Progress.scanNext
  dsimp only
  split
  · exact (Spares.refl sound).finished _
  · split
    · exact (Spares.refl sound).finished _
    · exact (Spares.refl sound).waiting trivial

theorem careful_begins (catalog : database.catalog.Sound numbering) (sound : database.pool.Sound)
    {operation : Operation} (registered : operation.Registered database.catalog) :
    database.Careful (Progress.ofOperation database operation) := by
  cases operation with
  | lock request => exact (Spares.refl sound).waiting trivial
  | fetch transaction page access => exact (Spares.refl sound).waiting trivial
  | insert transaction table row => exact careful_insertTable catalog sound transaction table row
  | insertInto transaction file row =>
      exact careful_insertFile catalog sound transaction ⟨file.id, registered⟩ row .toCaller
  | fill transaction table row copies =>
      exact careful_fillNext catalog sound transaction table row copies 0 none
  | delete transaction row => exact careful_deleteTable sound transaction row
  | deleteFrom transaction file row =>
      exact careful_deleteFile sound transaction file row .toCaller
  | scan scan count => exact careful_scanNext sound scan count []

/-! ### Under a lock -/

theorem spares_handOver (sound : database.pool.Sound) {transaction : TransactionId} {frame : Nat}
    {content : Page} (found : database.pool.residentFrame? content.id = some (frame, content))
    (owned : content.owner = some transaction) (handover : Handover) :
    database.Spares (Progress.handOver database transaction frame content handover).1 := by
  cases handover with
  | toPool => exact spares_absorb sound found owned
  | toCaller => exact .refl sound

private theorem careful_fetch (sound : database.pool.Sound) (transaction : TransactionId)
    (page : PageId) (access : Access) :
    database.Careful (Progress.fetch database transaction page access) := by
  have noted := spares_noteAccess sound transaction page access
  unfold Progress.fetch
  dsimp only
  cases loads : (database.noteAccess transaction page access).load page with
  | error fault => exact noted.finished _
  | ok reached => exact (noted.trans (spares_load noted.sound loads).1).finished _

private theorem careful_insert (catalog : database.catalog.Sound numbering)
    (sound : database.pool.Sound) {insertion : Insertion}
    (listed : database.catalog.Lists insertion.file) (handover : Handover) :
    database.Careful (Progress.insert database insertion handover) := by
  have tries := tries_tryPage catalog sound listed
  unfold Progress.insert
  generalize insertion.tryPage database = trial at tries
  cases tries with
  | failed spares fault => exact spares.finished _
  | @noRoom next rest spares file =>
      rw [← file] at listed
      exact spares.waiting listed
  | @stored next row frame page spares found owned =>
      have hands := spares.trans (spares_handOver spares.sound found owned handover)
      dsimp only
      cases handed : Progress.handOver next insertion.transaction frame page handover with
      | mk last result =>
          rw [handed] at hands
          cases result with
          | ok _ => exact hands.finished _
          | error fault => exact hands.finished _

private theorem careful_fill (catalog : database.catalog.Sound numbering)
    (sound : database.pool.Sound) {insertion : Insertion}
    (listed : database.catalog.Lists insertion.file) (table : TableId) (left stored : Nat)
    (last : Option RecordId) :
    database.Careful (Progress.fill database insertion table left stored last) := by
  have tries := tries_tryPage catalog sound listed
  unfold Progress.fill
  generalize insertion.tryPage database = trial at tries
  cases tries with
  | failed spares fault => exact spares.finished _
  | @noRoom next rest spares file =>
      rw [← file] at listed
      exact spares.waiting listed
  | @stored next row frame page spares found owned =>
      have absorbs := spares.trans (spares_absorb spares.sound found owned)
      dsimp only
      cases absorbed : next.absorb insertion.transaction frame page with
      | mk handed result =>
          rw [absorbed] at absorbs
          cases result with
          | error fault => exact absorbs.finished _
          | ok _ =>
              rw [← absorbs.catalog] at catalog
              exact absorbs.careful (careful_fillNext catalog absorbs.sound _ table _ _ _ _)

private theorem careful_delete (sound : database.pool.Sound) (transaction : TransactionId)
    (row : Row) (page : PageId) (handover : Handover) :
    database.Careful (Progress.delete database transaction row page handover) := by
  have noted := spares_noteAccess sound transaction page .write
  unfold Progress.delete
  dsimp only
  cases loads : (database.noteAccess transaction page .write).load page with
  | error fault => exact noted.finished _
  | ok reached =>
      obtain ⟨loaded, frame, content⟩ := reached
      obtain ⟨loading, found⟩ := spares_load noted.sound loads
      have reach := noted.trans loading
      dsimp only
      cases deletes : content.delete row with
      | error fault => exact reach.finished _
      | ok changed =>
          obtain ⟨changes, resident⟩ := spares_change reach.sound found
            (Page.id_of_delete deletes) transaction
          have owned : (changed.mark (some transaction)).owner = some transaction := rfl
          have hands := (reach.trans changes).trans
            (spares_handOver changes.sound resident owned handover)
          dsimp only
          cases handed : Progress.handOver
              (loaded.setFrame frame (changed.mark (some transaction))) transaction frame
              (changed.mark (some transaction)) handover with
          | mk last result =>
              rw [handed] at hands
              cases result with
              | ok _ => exact hands.finished _
              | error fault => exact hands.finished _

private theorem careful_scan (sound : database.pool.Sound) (scan : Scan) (left : Nat)
    (rows : List Row) : database.Careful (Progress.scan database scan left rows) := by
  unfold Progress.scan
  cases loads : database.load scan.page with
  | error fault => exact (Spares.refl sound).finished _
  | ok reached =>
      have loading := (spares_load sound loads).1
      exact loading.careful (careful_scanNext loading.sound _ left rows)

theorem careful_goes (catalog : database.catalog.Sound numbering) (sound : database.pool.Sound)
    {task : Task} (registered : task.Registered database.catalog) :
    database.Careful (Progress.ofTask database task) := by
  cases task with
  | locking request => exact (Spares.refl sound).finished _
  | fetching transaction page access => exact careful_fetch sound transaction page access
  | inserting insertion handover => exact careful_insert catalog sound registered handover
  | filling insertion table left stored last =>
      exact careful_fill catalog sound registered table left stored last
  | deleting transaction row page handover =>
      exact careful_delete sound transaction row page handover
  | scanning scan left rows => exact careful_scan sound scan left rows

end

end Database

end RowStore
