import RowStore.Proofs.Database.Probing
import RowStore.Proofs.Engine.Growth
import RowStore.Proofs.Engine.Sequential
import RowStore.Proofs.Engine.Turns

/-!
Inserters: transactions that do nothing but store rows in one table. Each of them has to lock the
first page before any other, so that only one of them holds anything. It goes from page to page
without waiting, and the others wait for it.
-/

set_option autoImplicit false

namespace RowStore

def EngineAction.Stores (file : TableFile) : EngineAction → Prop
  | .begin _ (.insert _ table row) => table = file.id ∧ row.schema = file.schema
  | .begin _ _ => False
  | _ => True

instance (file : TableFile) : (action : EngineAction) → Decidable (action.Stores file)
  | .begin _ (.insert _ table row) =>
      inferInstanceAs (Decidable (table = file.id ∧ row.schema = file.schema))
  | .begin _ (.lock _) | .begin _ (.fetch _ _ _) | .begin _ (.insertInto _ _ _)
  | .begin _ (.fill _ _ _ _) | .begin _ (.delete _ _) | .begin _ (.deleteFrom _ _ _)
  | .begin _ (.scan _ _) => isFalse id
  | .turn _ | .commit _ | .abort _ => isTrue trivial

/-! ### Behind a full page -/

namespace Insertion

/-- An insertion goes on with the next page of its file, which is added if there is none. -/
theorem skip_cases {database next : Database} {insertion rest : Insertion}
    (inRange : insertion.InRange database.volume) (skips : insertion.skip database = (next, rest)) :
    rest.nextPage = insertion.nextPage + 1 ∧ (next = database ∨
      rest.nextPage = insertion.file.pageCount database.volume ∧
        next = (database.appendEmptyPage insertion.file).1) := by
  obtain ⟨inside, counted⟩ := inRange
  unfold Insertion.skip at skips
  split at skips
  · cases skips
    exact ⟨rfl, Or.inl rfl⟩
  · unfold Insertion.advance at skips
    dsimp only at skips
    split at skips
    · cases skips
      refine ⟨?_, Or.inl rfl⟩
      dsimp only
      omega
    · cases skips
      have added : (database.appendEmptyPage insertion.file).2 =
        insertion.file.pageCount database.volume := rfl
      refine ⟨?_, Or.inr ⟨rfl, rfl⟩⟩
      dsimp only
      omega

theorem pool_advance (database : Database) (insertion : Insertion) (tried : Nat) :
    (insertion.advance database tried).1.pool = database.pool := by
  unfold Insertion.advance
  dsimp only
  split
  · rfl
  · rfl

theorem pool_skip (database : Database) (insertion : Insertion) :
    (insertion.skip database).1.pool = database.pool := by
  unfold Insertion.skip
  split
  · rfl
  · exact pool_advance database insertion insertion.limit

/-- An insertion into the file that is at its first page, or whose transaction has that page to
itself. -/
structure Enters (insertion : Insertion) (file : TableFile) (locks : LockTable) : Prop where
  own : insertion.file = file
  fits : insertion.row.schema = file.schema
  gate : insertion.nextPage = 0 ∨
    locks.lockMode? insertion.transaction (file.pageId 0) = some .exclusive

end Insertion

namespace Engine

/-! ### Invariant -/

/-- The page is not in the pool, and has a vacant slot on the disk. -/
def Vacant (engine : Engine) (page : PageId) : Prop :=
  engine.database.pool.residentFrame? page = none ∧
    ∃ content, engine.database.diskPage? page = some content ∧ content.isFull = false

def Inserts (file : TableFile) (engine : Engine) (action : EngineAction) : Prop :=
  engine.Sequential action ∧ action.Stores file

instance (file : TableFile) (engine : Engine) (action : EngineAction) :
    Decidable (Inserts file engine action) := by
  unfold Inserts
  infer_instance

/-- The table fits in the pool. -/
def Ample (engine : Engine) (file : TableFile) : Prop :=
  file.pageCount engine.database.volume ≤ engine.database.pool.capacity

/-- Only insertions into the file are under way, one for each transaction, and whoever holds a page
has the file's first one. -/
structure Inserting (engine : Engine) (start : Database) (journal : Journal) (file : TableFile) :
    Prop extends Sequenced engine start journal where
  registered : start.catalog.file file.id = .ok file
  readable : engine.database.Readable file.id
  fits : engine.database.pool.Fits
  gated : engine.database.pool.locks.Gated (file.pageId 0)
  inRange : engine.InRange file
  enters : ∀ (ticket : Nat) (task : Task), engine.tasks[ticket]? = some task →
    ∃ insertion : Insertion, task = .inserting insertion .toPool ∧
      insertion.Enters file engine.database.pool.locks

section

variable {start : Database} {engine : Engine} {journal : Journal} {file : TableFile}

theorem Inserting.geometry (inserting : engine.Inserting start journal file) :
    TableFile.checkGeometry file.schema file.pageSize = .ok () := by
  have registered := inserting.registered
  rw [← inserting.database.catalog] at registered
  exact (inserting.readable file registered).1

theorem Inserting.sized (inserting : engine.Inserting start journal file) : 0 < file.pageSize :=
  (TableFile.pos_of_checkGeometry inserting.geometry).2

theorem Inserting.begin_insert (inserting : engine.Inserting start journal file) {row : Row}
    (fits : row.schema = file.schema) (ticket : Nat) (transaction : TransactionId) :
    engine.begin ticket (.insert transaction file.id row) = engine.note ticket
      (Insertion.advance engine.database ⟨transaction, file, row, 0, 0⟩ 0).1
      (.waiting (.inserting
        (Insertion.advance engine.database ⟨transaction, file, row, 0, 0⟩ 0).2 .toPool)) := by
  have registered := inserting.registered
  rw [← inserting.database.catalog] at registered
  unfold Engine.begin
  rw [Progress.ofOperation_insert registered fits transaction]

/-! ### Turns -/

section

variable {ticket : Nat} {insertion : Insertion}
  (inserting : engine.Inserting start journal file)
  (found : engine.tasks[ticket]? = some (.inserting insertion .toPool))

include inserting found

private theorem Inserting.same_request (sleeper : Sleeper)
    (sleeps : engine.database.pool.locks.sleepers[ticket]? = some sleeper) :
    sleeper.request = ⟨insertion.transaction, insertion.page, .exclusive⟩ := by
  obtain ⟨task, under, request⟩ := inserting.asleep ticket sleeper sleeps
  rw [found] at under
  cases under
  exact request.symm

theorem Inserting.entered : insertion.Enters file engine.database.pool.locks := by
  obtain ⟨_, same, enters⟩ := inserting.enters ticket _ found
  cases same
  exact enters

private theorem Inserting.gated_acquire : (engine.database.pool.locks.acquire ticket
    ⟨insertion.transaction, insertion.page, .exclusive⟩).1.Gated (file.pageId 0) := by
  obtain ⟨rfl, _, gate⟩ := inserting.entered found
  refine inserting.gated.acquire (inserting.same_request found) rfl rfl (gate.imp_left ?_)
  intro first
  change insertion.file.pageId insertion.nextPage = _
  rw [first]

end

/-- What a turn of an insertion comes to: it waits for someone, goes on behind a full page that it
has locked, or stores its row there. -/
inductive Tries (engine : Engine) (start : Database) (journal : Journal) (ticket : Nat)
    (insertion : Insertion) : Prop where
  | asleep (comes : engine.turn ticket =
        (engine.setDatabase (engine.checked ticket (.inserting insertion .toPool)), .asleep))
      (holder : TransactionId) (opposes : engine.database.pool.locks.Opposes holder
        ⟨insertion.transaction, insertion.page, .exclusive⟩)
  | onwards (loaded : Database) (isolated : loaded.Isolated start journal)
      (volume : loaded.volume = engine.database.volume)
      (holds : loaded.pool.locks.lockMode? insertion.transaction insertion.page =
        some .exclusive)
      (taken : ¬engine.Vacant insertion.page)
      (comes : engine.turn ticket = engine.note ticket (insertion.skip loaded).1
        (.waiting (.inserting (insertion.skip loaded).2 .toPool)))
  | stored (next : Database) (slot : Nat)
      (comes : engine.turn ticket = engine.note ticket next (.finished (.inserted
        (insertion.row.storedAt ⟨insertion.page, slot⟩) insertion.page)))

theorem Inserting.tries (inserting : engine.Inserting start journal file) {ticket : Nat}
    {insertion : Insertion}
    (found : engine.tasks[ticket]? = some (.inserting insertion .toPool))
    (ample : engine.Ample file) : engine.Tries start journal ticket insertion := by
  have gated := inserting.gated_acquire found
  obtain ⟨rfl, fits, _⟩ := inserting.entered found
  rcases inserting.gated.granted_or_asleep inserting.database.exclusive inserting.sound
    inserting.calm (inserting.same_request found) with granted | ⟨asleep, holder, opposes⟩
  · obtain ⟨held, mode, covers⟩ := (inserting.answers found).granted granted
    have holds : (engine.checked ticket (.inserting insertion .toPool)).pool.locks.lockMode?
        insertion.transaction insertion.page = some .exclusive := by
      rw [← covers rfl]
      exact mode
    have noted := (inserting.checked ticket (.inserting insertion .toPool)).noteAccess
      (fun _ : Access.write = .write => holds)
    have registered := inserting.registered
    rw [← noted.catalog] at registered
    have inside := inserting.inRange ticket insertion .toPool found rfl
    obtain ⟨loaded, frame, content, loads⟩ := noted.load_of_ample registered
      (fun page transaction holder =>
        (gated transaction page .exclusive (Holders.modeOf?_eq_some_exclusive.mpr holder)).2.1)
      inserting.readable ample (Nat.lt_of_lt_of_le inside.inside inside.counted)
    have turns : engine.turn ticket = engine.note ticket
        (Progress.insert (engine.checked ticket (.inserting insertion .toPool)) insertion .toPool).1
        (Progress.insert (engine.checked ticket (.inserting insertion .toPool)) insertion
          .toPool).2 := turn_of_granted found (Prod.ext rfl granted)
    obtain ⟨reached, resident, locks, _⟩ := noted.load loads
    cases full : content.isFull with
    | true =>
        rw [Progress.insert_of_full loads full .toPool] at turns
        refine .onwards loaded reached ((Database.volume_load loads).trans rfl) ?_ ?_ turns
        · rw [locks]
          exact holds
        · rintro ⟨absent, old, onDisk, vacant⟩
          obtain ⟨_, _, _, before | ⟨_, read⟩⟩ := Database.load_cases noted.sound loads
          · cases absent.symm.trans before
          · cases onDisk.symm.trans read
            cases full.symm.trans vacant
    | false =>
        obtain ⟨slot, vacant⟩ := Page.exists_firstVacant? full
        have schema := reached.schema_eq resident inserting.registered
        obtain ⟨next, _, stores⟩ := Progress.insert_of_vacant loads reached.sound resident vacant
          (fits.trans schema.symm)
        rw [stores] at turns
        exact .stored next slot turns
  · refine .asleep ?_ holder opposes
    unfold Engine.turn
    rw [found]
    dsimp only [Task.request]
    rw [asleep]
    rfl

/-! ### Steps -/

private theorem locks_onwards {ticket : Nat} {insertion : Insertion} {loaded : Database}
    (comes : engine.turn ticket = engine.note ticket (insertion.skip loaded).1
      (.waiting (.inserting (insertion.skip loaded).2 .toPool))) :
    (engine.turn ticket).1.database.pool.locks = loaded.pool.locks := by
  rw [comes, database_note, Insertion.pool_skip]

private theorem Inserting.enters_onwards (inserting : engine.Inserting start journal file)
    (setUp : start.SetUp) {ticket : Nat} {insertion : Insertion} {loaded : Database}
    (found : engine.tasks[ticket]? = some (.inserting insertion .toPool))
    (holds : loaded.pool.locks.lockMode? insertion.transaction insertion.page = some .exclusive)
    (comes : engine.turn ticket = engine.note ticket (insertion.skip loaded).1
      (.waiting (.inserting (insertion.skip loaded).2 .toPool))) :
    (insertion.skip loaded).2.Enters file (engine.turn ticket).1.database.pool.locks := by
  have carries := Insertion.carries_skip (Prod.eta (insertion.skip loaded)).symm
  have gated := inserting.gated_acquire found
  obtain ⟨own, fits, _⟩ := inserting.entered found
  refine ⟨carries.file.trans own, ?_, Or.inr ?_⟩
  · rw [carries.row]
    exact fits
  · rw [← locks_onwards comes, inserting.locks_turn setUp found] at holds
    rw [carries.transaction, inserting.locks_turn setUp found]
    exact (gated _ _ _ holds).2.2

private theorem Inserting.gated_perform (inserting : engine.Inserting start journal file)
    (setUp : start.SetUp) {action : EngineAction} (concurrent : engine.Concurrent action) :
    (engine.perform action).database.pool.locks.Gated (file.pageId 0) := by
  apply inserting.locks_invariant setUp concurrent (LockTable.Gated · (file.pageId 0))
    inserting.gated
  · intro ticket task found
    obtain ⟨insertion, rfl, _⟩ := inserting.enters ticket task found
    exact inserting.gated_acquire found
  · intro transaction _
    exact inserting.gated.releaseAll inserting.sound.accounted transaction

private theorem Inserting.enters_before (inserting : engine.Inserting start journal file)
    (setUp : start.SetUp) {action : EngineAction} (sequential : engine.Sequential action)
    {ticket : Nat} {task : Task} (found : engine.tasks[ticket]? = some task) :
    ∃ insertion : Insertion, task = .inserting insertion .toPool ∧
      insertion.Enters file (engine.perform action).database.pool.locks := by
  obtain ⟨insertion, rfl, own, fits, gate⟩ := inserting.enters ticket task found
  refine ⟨insertion, rfl, own, fits, gate.imp_right ?_⟩
  intro holds
  have goesOn {transaction : TransactionId} (free : engine.isBusy transaction = false) :
      transaction ≠ insertion.transaction :=
    Ne.symm (isBusy_eq_false.mp free ticket _ found)
  obtain ⟨kept, keeps, covers⟩ := inserting.keeps_lock setUp sequential.1 holds
    (by
      rintro rfl
      exact goesOn sequential.2 rfl)
    (by
      rintro rfl
      exact goesOn sequential.2 rfl)
  rw [keeps, covers rfl]

private theorem Inserting.enters_perform (inserting : engine.Inserting start journal file)
    (setUp : start.SetUp) (ample : engine.Ample file) {action : EngineAction}
    (inserts : Inserts file engine action) {ticket : Nat} {rest : Task}
    (found : (engine.perform action).tasks[ticket]? = some rest) :
    ∃ insertion : Insertion, rest = .inserting insertion .toPool ∧
      insertion.Enters file (engine.perform action).database.pool.locks := by
  obtain ⟨sequential, stores⟩ := inserts
  have before (under : engine.tasks[ticket]? = some rest) :=
    inserting.enters_before setUp sequential under
  cases action with
  | begin began operation =>
      cases operation with
      | insert transaction table row =>
          obtain ⟨rfl, fits⟩ := stores
          have begins := inserting.begin_insert fits began transaction
          change (engine.begin began _).1.tasks[ticket]? = some rest at found
          rw [begins, tasks_note] at found
          split at found
          · cases found
            have advances :=
              (Prod.eta (Insertion.advance engine.database ⟨transaction, file, row, 0, 0⟩ 0)).symm
            have carries := Insertion.carries_advance advances
            refine ⟨_, rfl, carries.file, ?_, Or.inl (Insertion.nextPage_advance_zero advances)⟩
            rw [carries.row]
            exact fits
          · exact before found
      | _ => cases stores
  | turn turned =>
      change (engine.turn turned).1.tasks[ticket]? = some rest at found
      cases under : engine.tasks[turned]? with
      | none =>
          rw [turn_of_unused under] at found
          exact before found
      | some task =>
          obtain ⟨insertion, rfl, _⟩ := inserting.enters turned task under
          cases inserting.tries under ample with
          | asleep comes holder opposes =>
              rw [comes] at found
              exact before found
          | onwards loaded isolated volume holds taken comes =>
              have next := inserting.enters_onwards setUp under holds comes
              rw [comes, tasks_note] at found
              split at found
              · cases found
                exact ⟨_, rfl, next⟩
              · exact before found
          | stored next slot comes =>
              rw [comes, tasks_note] at found
              split at found
              · cases found
              · exact before found
  | commit transaction => exact before found
  | abort transaction => exact before found

theorem Inserting.perform (inserting : engine.Inserting start journal file) (setUp : start.SetUp)
    (ample : engine.Ample file) {action : EngineAction} (inserts : Inserts file engine action) :
    (engine.perform action).Inserting start (journal.after engine action) file := by
  have concurrent := inserts.1.1
  have keeps := inserting.keeps_perform setUp concurrent
  have catalog := setUp.sound
  rw [← inserting.database.catalog] at catalog
  exact
    { inserting.toSequenced.perform setUp inserts.1 with
      registered := inserting.registered
      readable := keeps.readable _ _ catalog inserting.readable
      fits := keeps.pool.fits inserting.fits
      gated := inserting.gated_perform setUp concurrent
      inRange := inserting.inRange.perform inserting.toGuarded setUp inserting.registered
        inserting.sized concurrent
      enters := fun _ _ => inserting.enters_perform setUp ample inserts }

theorem Inserting.performEach (inserting : engine.Inserting start journal file)
    (setUp : start.SetUp) {actions : List EngineAction} (inserts : engine.Throughout
      (fun engine action => Inserts file engine action ∧ engine.Ample file) actions) :
    (engine.performEach actions).Inserting start (engine.record journal actions).2 file :=
  record_invariant (fun engine journal => engine.Inserting start journal file)
    (fun _ _ _ inserting both => inserting.perform setUp both.2 both.1) inserting inserts

/-! ### No failure -/

/-- An operation that begins gets under way, one that finishes has stored its row on the page that
it came to, and a commit is carried out. -/
def Succeeds (engine : Engine) : EngineAction → Prop
  | .begin ticket operation => (engine.begin ticket operation).2 = .underWay
  | .turn ticket => ∀ outcome, (engine.turn ticket).2 = .finished outcome →
      ∃ (insertion : Insertion) (slot : Nat),
        engine.tasks[ticket]? = some (.inserting insertion .toPool) ∧
          outcome = .inserted (insertion.row.storedAt ⟨insertion.page, slot⟩) insertion.page
  | .commit transaction => (engine.database.commit transaction).2 = .ok ()
  | .abort _ => True

theorem Inserting.succeeds (inserting : engine.Inserting start journal file) (setUp : start.SetUp)
    (ample : engine.Ample file) {action : EngineAction} (inserts : Inserts file engine action) :
    engine.Succeeds action := by
  cases action with
  | begin began operation =>
      cases operation with
      | insert transaction table row =>
          obtain ⟨rfl, fits⟩ := inserts.2
          change (engine.begin began _).2 = .underWay
          rw [inserting.begin_insert fits began transaction]
          rfl
      | _ => cases inserts.2
  | turn ticket =>
      intro outcome finishes
      cases under : engine.tasks[ticket]? with
      | none =>
          rw [turn_of_unused under] at finishes
          cases finishes
      | some task =>
          obtain ⟨insertion, rfl, _⟩ := inserting.enters ticket task under
          cases inserting.tries under ample with
          | asleep comes holder opposes =>
              rw [comes] at finishes
              cases finishes
          | onwards loaded isolated volume holds taken comes =>
              rw [comes] at finishes
              cases finishes
          | stored next slot comes =>
              rw [comes] at finishes
              cases finishes
              exact ⟨insertion, slot, rfl, rfl⟩
  | commit transaction => exact (inserting.database.commit setUp transaction).1
  | abort transaction => trivial

private theorem Inserting.awake (inserting : engine.Inserting start journal file)
    (ample : engine.Ample file) {ticket : Nat} {task : Task}
    (found : engine.tasks[ticket]? = some task) {page : PageId} {held : LockMode}
    (holds : engine.database.pool.locks.lockMode? task.transaction page = some held) :
    (engine.turn ticket).2 ≠ .asleep := by
  obtain ⟨insertion, rfl, _⟩ := inserting.enters ticket task found
  cases inserting.tries found ample with
  | asleep comes holder opposes =>
      obtain ⟨different, _, holdsAhead, _⟩ := opposes
      have same := inserting.gated.eq inserting.database.exclusive holdsAhead holds
      exact absurd same different
  | onwards loaded isolated volume _ taken comes =>
      rw [comes]
      intro impossible
      cases impossible
  | stored next slot comes =>
      rw [comes]
      intro impossible
      cases impossible

end

end Engine

end RowStore
