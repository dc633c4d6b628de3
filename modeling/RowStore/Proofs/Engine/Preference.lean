import RowStore.Proofs.Database.Agreement
import RowStore.Proofs.Database.Samples
import RowStore.Proofs.Engine.Calls
import RowStore.Proofs.Engine.Completion

/-!
Preference: which page a pool drops to make room does not show. Two runs of an engine through the
same actions, with pools that choose differently what to drop, answer every action alike.
-/

set_option autoImplicit false

namespace RowStore

/-! ### What is shown -/

/-- The outcome without the number of the frame that a page is in, which nobody sees. -/
def Outcome.shown : Outcome → Outcome
  | .fetched _ page => .fetched 0 page
  | outcome => outcome

def Progress.shown : Progress → Progress
  | .finished outcome => .finished outcome.shown
  | .waiting task => .waiting task

def Turn.shown : Turn → Turn
  | .finished outcome => .finished outcome.shown
  | turn => turn

/-! ### Steps of operations -/

namespace Database

structure Alike (left right : Database × Progress) (locked : Option PageId) : Prop where
  shown : left.2.shown = right.2.shown
  agrees : left.1.Agrees right.1 locked

section

variable {left right : Database} {locked : Option PageId}

theorem Mirrors.noteAccess {database : Database} (mirrors : database.Mirrors)
    (transaction : TransactionId) (page : PageId) (access : Access) :
    (database.noteAccess transaction page access).Mirrors := by
  cases access with
  | read => exact mirrors
  | write => exact mirrors

theorem Agrees.advance (agrees : left.Agrees right locked) (insertion : Insertion) (tried : Nat) :
    (insertion.advance left tried).2 = (insertion.advance right tried).2 ∧
      (insertion.advance left tried).1.Agrees (insertion.advance right tried).1 locked := by
  unfold Insertion.advance appendEmptyPage
  dsimp only
  rw [agrees.volume]
  split
  · exact ⟨rfl, agrees⟩
  · exact ⟨rfl, agrees.setVolume _⟩

theorem Agrees.skip (agrees : left.Agrees right locked) (insertion : Insertion) :
    (insertion.skip left).2 = (insertion.skip right).2 ∧
      (insertion.skip left).1.Agrees (insertion.skip right).1 locked := by
  unfold Insertion.skip
  split
  · exact ⟨rfl, agrees⟩
  · exact agrees.advance insertion insertion.limit

theorem Agrees.absorb (agrees : left.Agrees right locked) {page : PageId}
    {frameLeft frameRight : Nat} {content changed : Page}
    (foundLeft : left.pool.residentFrame? page = some (frameLeft, content))
    (foundRight : right.pool.residentFrame? page = some (frameRight, content))
    (id : changed.id = page) (transaction : TransactionId) :
    ∃ nextLeft nextRight,
      (left.setFrame frameLeft (changed.mark (some transaction))).absorb transaction frameLeft
        (changed.mark (some transaction)) = (nextLeft, .ok ()) ∧
      (right.setFrame frameRight (changed.mark (some transaction))).absorb transaction frameRight
        (changed.mark (some transaction)) = (nextRight, .ok ()) ∧
      nextLeft.Agrees nextRight locked := by
  have idMarked : (changed.mark (some transaction)).id = page := id
  have residentLeft := (agrees.sound.1.residentFrame?_setFrame foundLeft
    (changed.mark (some transaction)) page).trans (if_pos rfl)
  have residentRight := (agrees.sound.2.residentFrame?_setFrame foundRight
    (changed.mark (some transaction)) page).trans (if_pos rfl)
  exact ⟨_, _, absorb_of_resident residentLeft idMarked rfl,
    absorb_of_resident residentRight idMarked rfl,
    (agrees.setFrame foundLeft foundRight idMarked).noteAccess transaction page .write⟩

private theorem Agrees.goes_fetch (agrees : left.Agrees right locked)
    (mirrorsLeft : left.Mirrors) (mirrorsRight : right.Mirrors) {page : PageId}
    (within : ∀ other, other ≠ page → locked ≠ some other) (transaction : TransactionId)
    (access : Access) :
    Alike (Progress.fetch left transaction page access)
      (Progress.fetch right transaction page access) none := by
  unfold Progress.fetch
  dsimp only
  cases (agrees.noteAccess transaction page access).load (mirrorsLeft.noteAccess _ _ _)
      (mirrorsRight.noteAccess _ _ _) within with
  | failed fault failsLeft failsRight failed =>
      rw [failsLeft, failsRight]
      exact ⟨rfl, failed⟩
  | found loadsLeft loadsRight _ _ loaded =>
      rw [loadsLeft, loadsRight]
      exact ⟨rfl, loaded⟩

private theorem Agrees.goes_insert (agrees : left.Agrees right locked)
    (mirrorsLeft : left.Mirrors) (mirrorsRight : right.Mirrors) {insertion : Insertion}
    (within : ∀ other, other ≠ insertion.page → locked ≠ some other) :
    Alike (Progress.insert left insertion .toPool) (Progress.insert right insertion .toPool)
      none := by
  unfold Progress.insert Insertion.tryPage
  dsimp only
  cases (agrees.noteAccess insertion.transaction insertion.page .write).load
      (mirrorsLeft.noteAccess _ _ _) (mirrorsRight.noteAccess _ _ _) within with
  | failed fault failsLeft failsRight failed =>
      rw [failsLeft, failsRight]
      exact ⟨rfl, failed⟩
  | @found _ _ _ _ content loadsLeft loadsRight foundLeft foundRight loaded =>
      rw [loadsLeft, loadsRight]
      dsimp only
      cases content.isFull with
      | true =>
          obtain ⟨same, skipped⟩ := loaded.skip insertion
          rw [if_pos rfl, if_pos rfl]
          exact ⟨congrArg (fun rest => Progress.waiting (.inserting rest .toPool)) same, skipped⟩
      | false =>
          rw [if_neg Bool.false_ne_true, if_neg Bool.false_ne_true]
          cases inserts : content.insert insertion.row with
          | error fault => exact ⟨rfl, loaded⟩
          | ok answer =>
              obtain ⟨changed, stored⟩ := answer
              have id := (Page.id_of_insert inserts).trans (loaded.sound.1.id_eq foundLeft)
              obtain ⟨_, _, absorbsLeft, absorbsRight, handed⟩ :=
                loaded.absorb foundLeft foundRight id insertion.transaction
              unfold Progress.handOver
              dsimp only
              rw [absorbsLeft, absorbsRight]
              exact ⟨rfl, handed⟩

private theorem Agrees.goes_delete (agrees : left.Agrees right locked)
    (mirrorsLeft : left.Mirrors) (mirrorsRight : right.Mirrors) {page : PageId}
    (within : ∀ other, other ≠ page → locked ≠ some other) (transaction : TransactionId)
    (row : Row) :
    Alike (Progress.delete left transaction row page .toPool)
      (Progress.delete right transaction row page .toPool) none := by
  unfold Progress.delete
  dsimp only
  cases (agrees.noteAccess transaction page .write).load (mirrorsLeft.noteAccess _ _ _)
      (mirrorsRight.noteAccess _ _ _) within with
  | failed fault failsLeft failsRight failed =>
      rw [failsLeft, failsRight]
      exact ⟨rfl, failed⟩
  | @found _ _ _ _ content loadsLeft loadsRight foundLeft foundRight loaded =>
      rw [loadsLeft, loadsRight]
      dsimp only
      cases deletes : content.delete row with
      | error fault => exact ⟨rfl, loaded⟩
      | ok changed =>
          have id := (Page.id_of_delete deletes).trans (loaded.sound.1.id_eq foundLeft)
          obtain ⟨_, _, absorbsLeft, absorbsRight, handed⟩ :=
            loaded.absorb foundLeft foundRight id transaction
          unfold Progress.handOver
          dsimp only
          rw [absorbsLeft, absorbsRight]
          exact ⟨rfl, handed⟩

theorem Agrees.scanNext (agrees : left.Agrees right locked) (scan : Scan) (count : Nat)
    (rows : List Row) :
    Alike (Progress.scanNext left scan count rows) (Progress.scanNext right scan count rows)
      locked := by
  unfold Progress.scanNext
  dsimp only
  rw [agrees.volume]
  split
  · exact ⟨rfl, agrees⟩
  · split
    · exact ⟨rfl, agrees⟩
    · exact ⟨rfl, agrees⟩

private theorem Agrees.goes_scan (agrees : left.Agrees right locked)
    (mirrorsLeft : left.Mirrors) (mirrorsRight : right.Mirrors) {scan : Scan}
    (within : ∀ other, other ≠ scan.page → locked ≠ some other) (count : Nat) (rows : List Row) :
    Alike (Progress.scan left scan count rows) (Progress.scan right scan count rows) none := by
  unfold Progress.scan
  cases agrees.load mirrorsLeft mirrorsRight within with
  | failed fault failsLeft failsRight failed =>
      rw [failsLeft, failsRight]
      exact ⟨rfl, failed⟩
  | @found _ _ _ _ content loadsLeft loadsRight _ _ loaded =>
      rw [loadsLeft, loadsRight]
      exact loaded.scanNext (scan.take content) count rows

theorem Agrees.goes {task : Task} (agrees : left.Agrees right (some task.request.page))
    (mirrorsLeft : left.Mirrors) (mirrorsRight : right.Mirrors) {catalog : Catalog}
    (proper : task.Proper catalog) :
    Alike (Progress.ofTask left task) (Progress.ofTask right task) none := by
  have within (other : PageId) (different : other ≠ task.request.page) :
      some task.request.page ≠ some other :=
    fun same => different (Option.some.inj same).symm
  cases task with
  | fetching transaction page access =>
      exact agrees.goes_fetch mirrorsLeft mirrorsRight within transaction access
  | inserting insertion handover =>
      obtain ⟨rfl, _⟩ := proper
      exact agrees.goes_insert mirrorsLeft mirrorsRight within
  | deleting transaction row page handover =>
      cases proper
      exact agrees.goes_delete mirrorsLeft mirrorsRight within transaction row
  | scanning scan count rows =>
      exact agrees.goes_scan mirrorsLeft mirrorsRight within count rows
  | locking request => cases proper
  | filling insertion table left stored last => cases proper

private theorem Agrees.begins_insert (agrees : left.Agrees right locked)
    (transaction : TransactionId) (table : TableId) (row : Row) :
    Alike (Progress.insertTable left transaction table row)
      (Progress.insertTable right transaction table row) locked := by
  unfold Progress.insertTable
  rw [← agrees.catalog]
  cases left.catalog.file table with
  | error fault => exact ⟨rfl, agrees⟩
  | ok file =>
      unfold Progress.insertFile Insertion.start
      dsimp only
      by_cases same : row.schema = file.schema
      · obtain ⟨rest, advanced⟩ := agrees.advance ⟨transaction, file, row, 0, 0⟩ 0
        rw [if_pos same, if_pos same]
        exact ⟨congrArg (fun rest => Progress.waiting (.inserting rest .toPool)) rest, advanced⟩
      · rw [if_neg same, if_neg same]
        exact ⟨rfl, agrees⟩

private theorem Agrees.begins_delete (agrees : left.Agrees right locked)
    (transaction : TransactionId) (row : Row) :
    Alike (Progress.deleteTable left transaction row)
      (Progress.deleteTable right transaction row) locked := by
  unfold Progress.deleteTable Progress.deleteFile
  rw [← agrees.catalog]
  cases row.record with
  | none => exact ⟨rfl, agrees⟩
  | some record =>
      dsimp only
      cases left.catalog.file record.page.table with
      | error fault => exact ⟨rfl, agrees⟩
      | ok file =>
          dsimp only
          split
          · exact ⟨rfl, agrees⟩
          · exact ⟨rfl, agrees⟩

theorem Agrees.begins (agrees : left.Agrees right locked) {operation : Operation}
    (transactional : operation.Transactional) :
    Alike (Progress.ofOperation left operation) (Progress.ofOperation right operation)
      locked := by
  cases operation with
  | fetch transaction page access => exact ⟨rfl, agrees⟩
  | insert transaction table row => exact agrees.begins_insert transaction table row
  | delete transaction row => exact agrees.begins_delete transaction row
  | scan scan count => exact agrees.scanNext scan count []
  | lock request => cases transactional
  | insertInto transaction file row => cases transactional
  | fill transaction table row copies => cases transactional
  | deleteFrom transaction file row => cases transactional

end

end Database

/-! ### Actions -/

inductive Answer where
  | turned (turn : Turn)
  | ended (result : Except Fault Unit)
  deriving DecidableEq, Repr

namespace Engine

/-- What is shown of an action: how far the operation came that begins or takes its turn, or
whether the transaction ended. -/
def answer (engine : Engine) : EngineAction → Answer
  | .begin ticket operation => .turned (engine.begin ticket operation).2.shown
  | .turn ticket => .turned (engine.turn ticket).2.shown
  | .commit transaction => .ended (engine.database.commit transaction).2
  | .abort _ => .ended (.ok ())

def answers (engine : Engine) : List EngineAction → List Answer
  | [] => []
  | action :: rest => engine.answer action :: (engine.perform action).answers rest

structure Agrees (left right : Engine) : Prop where
  tasks : left.tasks = right.tasks
  database : left.database.Agrees right.database none

section

variable {left right : Engine}

theorem Agrees.note (agrees : left.Agrees right) (ticket : Nat)
    {nextLeft nextRight : Database × Progress} (alike : Database.Alike nextLeft nextRight none) :
    (left.note ticket nextLeft.1 nextLeft.2).2.shown =
        (right.note ticket nextRight.1 nextRight.2).2.shown ∧
      (left.note ticket nextLeft.1 nextLeft.2).1.Agrees
        (right.note ticket nextRight.1 nextRight.2).1 := by
  obtain ⟨databaseLeft, progressLeft⟩ := nextLeft
  obtain ⟨databaseRight, progressRight⟩ := nextRight
  obtain ⟨shown, database⟩ := alike
  cases progressLeft with
  | finished outcomeLeft =>
      cases progressRight with
      | finished outcomeRight =>
          refine ⟨congrArg Turn.finished (Progress.finished.inj shown), ?_, database⟩
          exact congrArg (fun tasks => tasks.erase ticket) agrees.tasks
      | waiting taskRight => cases shown
  | waiting taskLeft =>
      cases progressRight with
      | finished outcomeRight => cases shown
      | waiting taskRight =>
          cases shown
          refine ⟨rfl, ?_, database⟩
          exact congrArg (fun tasks => tasks.insert ticket taskLeft) agrees.tasks

theorem Agrees.begin (agrees : left.Agrees right) (ticket : Nat) {operation : Operation}
    (transactional : operation.Transactional) :
    (left.begin ticket operation).2.shown = (right.begin ticket operation).2.shown ∧
      (left.begin ticket operation).1.Agrees (right.begin ticket operation).1 :=
  agrees.note ticket (agrees.database.begins transactional)

/-- The lock that a task asks for is granted in both runs or in neither. If it is, then the page may
be in the one pool only. -/
theorem Agrees.checked {start : Database} {journal : Journal} (agrees : left.Agrees right)
    (guarded : left.Guarded start journal) {ticket : Nat} {task : Task}
    (found : left.tasks[ticket]? = some task) (locked : Option PageId)
    (granted : (left.database.pool.locks.acquire ticket task.request).2 = .granted →
      locked = some task.request.page) :
    (left.checked ticket task).Agrees (right.checked ticket task) locked := by
  have again (sleeper : Sleeper)
      (sleeps : left.database.pool.locks.sleepers[ticket]? = some sleeper) :
      sleeper.request = task.request := by
    obtain ⟨other, foundOther, request⟩ := guarded.asleep ticket sleeper sleeps
    rw [found] at foundOther
    cases foundOther
    exact request.symm
  unfold Engine.checked
  rw [← agrees.database.locks]
  apply agrees.database.setLocks
  intro page unlocked alone
  unfold LockTable.exclusiveHolder? at alone ⊢
  rw [LockTable.holders_acquire_elsewhere again] at alone
  · exact alone
  · intro grants same
    exact unlocked ((granted grants).trans (congrArg some same))

theorem Agrees.turn {startLeft startRight : Database} {journalLeft journalRight : Journal}
    (agrees : left.Agrees right) (guardedLeft : left.Guarded startLeft journalLeft)
    (guardedRight : right.Guarded startRight journalRight) (ticket : Nat) :
    (left.turn ticket).2.shown = (right.turn ticket).2.shown ∧
      (left.turn ticket).1.Agrees (right.turn ticket).1 := by
  cases found : left.tasks[ticket]? with
  | none =>
      have unused := found
      rw [agrees.tasks] at unused
      rw [turn_of_unused found, turn_of_unused unused]
      exact ⟨rfl, agrees⟩
  | some task =>
      have foundRight := found
      rw [agrees.tasks] at foundRight
      have proper := guardedLeft.proper ticket task found
      have mirrorsLeft := (guardedLeft.checked ticket task).mirrors
      have mirrorsRight := (guardedRight.checked ticket task).mirrors
      rw [turn_of_task found, turn_of_task foundRight, ← agrees.database.locks]
      cases verdict : (left.database.pool.locks.acquire ticket task.request).2 with
      | asleep =>
          refine ⟨rfl, agrees.tasks, agrees.checked guardedLeft found none ?_⟩
          intro granted
          cases verdict.symm.trans granted
      | refused fault =>
          have fails : Database.Alike (left.checked ticket task, .finished (task.fail fault))
              (right.checked ticket task, .finished (task.fail fault)) none := by
            refine ⟨rfl, agrees.checked guardedLeft found none ?_⟩
            intro granted
            cases verdict.symm.trans granted
          exact agrees.note ticket fails
      | granted =>
          have checked := agrees.checked guardedLeft found _ (fun _ => rfl)
          exact agrees.note ticket (checked.goes mirrorsLeft mirrorsRight proper)

theorem Agrees.perform {startLeft startRight : Database} {journalLeft journalRight : Journal}
    (agrees : left.Agrees right) (guardedLeft : left.Guarded startLeft journalLeft)
    (guardedRight : right.Guarded startRight journalRight) {action : EngineAction}
    (concurrent : left.Concurrent action) :
    left.answer action = right.answer action ∧
      (left.perform action).Agrees (right.perform action) := by
  cases action with
  | begin ticket operation =>
      obtain ⟨same, begun⟩ := agrees.begin ticket concurrent.2
      exact ⟨congrArg Answer.turned same, begun⟩
  | turn ticket =>
      obtain ⟨same, turned⟩ := agrees.turn guardedLeft guardedRight ticket
      exact ⟨congrArg Answer.turned same, turned⟩
  | commit transaction =>
      obtain ⟨same, committed⟩ := agrees.database.commit transaction
      exact ⟨congrArg Answer.ended same, agrees.tasks, committed⟩
  | abort transaction => exact ⟨rfl, agrees.tasks, agrees.database.dismiss transaction⟩

theorem Agrees.concurrent (agrees : left.Agrees right) {action : EngineAction}
    (concurrent : left.Concurrent action) : right.Concurrent action := by
  cases action with
  | begin ticket operation => exact ⟨agrees.tasks ▸ concurrent.1, concurrent.2⟩
  | _ => trivial

theorem Agrees.performEach {startLeft startRight : Database} {journalLeft journalRight : Journal}
    (agrees : left.Agrees right) (setUpLeft : startLeft.SetUp) (setUpRight : startRight.SetUp)
    (guardedLeft : left.Guarded startLeft journalLeft)
    (guardedRight : right.Guarded startRight journalRight) {actions : List EngineAction}
    (concurrent : left.Throughout Concurrent actions) :
    left.answers actions = right.answers actions ∧
      (left.performEach actions).Agrees (right.performEach actions) := by
  induction actions generalizing left right journalLeft journalRight with
  | nil => exact ⟨rfl, agrees⟩
  | cons action rest ih =>
      have allowed := agrees.concurrent concurrent.1
      obtain ⟨same, next⟩ := agrees.perform guardedLeft guardedRight concurrent.1
      obtain ⟨sameLater, last⟩ := ih next (guardedLeft.perform setUpLeft concurrent.1)
        (guardedRight.perform setUpRight allowed) concurrent.2
      refine ⟨?_, last⟩
      unfold Engine.answers
      rw [same, sameLater]

end

end Engine

/-! ### Pools that differ in what they drop -/

namespace Database

def preferring (database : Database) (preference : Nat → Nat) : Database :=
  { database with
    pool := { database.pool with preference := preference } }

theorem SetUp.preferring {database : Database} (setUp : database.SetUp) (preference : Nat → Nat) :
    (database.preferring preference).SetUp := by
  induction setUp with
  | @new settings numbering old volume database made =>
      have again : Database.new settings numbering preference volume =
          .ok (database.preferring preference) := by
        rw [(eq_of_new made).2]
        unfold Database.new at made ⊢
        cases valid : settings.validate with
        | error fault =>
            rw [valid] at made
            cases made
        | ok _ => rfl
      exact .new again
  | @openFile database opened path opening schema pageSize file _ opens ih =>
      obtain ⟨volume, checked, written, rfl, rfl⟩ := openFile_cases opens
      have again : (database.preferring preference).openFile path opening schema pageSize =
          .ok ({ database with volume := volume }.preferring preference,
            ⟨database.numbering path, path, schema, pageSize⟩) :=
        openFile_of_checked checked written
      exact .openFile ih again
  | @register database registered file name _ numbered registers ih =>
      obtain ⟨catalog, added, rfl⟩ := register_cases registers
      have again : (database.preferring preference).register file name =
          .ok ({ database with catalog := catalog }.preferring preference) := by
        unfold Database.register Database.preferring
        rw [added]
        rfl
      exact .register ih numbered again
  | clearCatalog _ ih => exact .clearCatalog ih

theorem agrees_preferring {start : Database} (setUp : start.SetUp) (preference : Nat → Nat) :
    (start.preferring preference).Agrees start none where
  catalog := rfl
  volume := rfl
  locks := rfl
  written := rfl
  capacity := rfl
  sound := ⟨setUp.atRest.sound, setUp.atRest.sound⟩
  fits := ⟨setUp.atRest.fits, setUp.atRest.fits⟩
  unsaved := fun _ => rfl
  alone := fun _ _ _ => rfl

end Database

namespace Engine

/-- Whatever the pool chooses to drop when it makes room, every action answers the same: the same
pages, rows and records, and the same faults. The same operations are left, and the same of them
are asleep. -/
theorem answers_ignore_preference {start : Database} (setUp : start.SetUp)
    (preference : Nat → Nat) {actions : List EngineAction}
    (concurrent : (new start).Throughout Concurrent actions) :
    (new (start.preferring preference)).answers actions = (new start).answers actions ∧
      ((new (start.preferring preference)).performEach actions).tasks =
        ((new start).performEach actions).tasks ∧
      ((new (start.preferring preference)).performEach actions).database.pool.locks =
        ((new start).performEach actions).database.pool.locks := by
  have other := setUp.preferring preference
  have agrees : (new start).Agrees (new (start.preferring preference)) :=
    ⟨rfl, (Database.agrees_preferring setUp preference).symm⟩
  obtain ⟨same, last⟩ :=
    agrees.performEach setUp other (guarded_new setUp) (guarded_new other) concurrent
  exact ⟨same.symm, last.tasks.symm, last.database.locks.symm⟩

/-- A pool of two pages drops one of two when a third is read. One transaction takes both places to
itself then, so that it is refused a third page, and another one sleeps. -/
theorem answers_ignore_preference_full :
    let start : Database := Samples.table 2 3
    let last : Nat → Nat := fun _ => 1
    let fetch (ticket transaction page : Nat) (access : Access) : List EngineAction :=
      [.begin ticket (.fetch ⟨transaction⟩ ⟨⟨0⟩, page⟩ access), .turn ticket]
    let reads := fetch 0 1 0 .read ++ fetch 0 1 1 .read ++ fetch 0 1 2 .read
    let writes := fetch 0 1 0 .write ++ fetch 1 2 0 .read ++ fetch 0 1 1 .write ++
      fetch 0 1 2 .write
    start.SetUp ∧ (new start).Throughout Concurrent (reads ++ writes) ∧
      (new (start.preferring last)).answers (reads ++ writes) =
        (new start).answers (reads ++ writes) ∧
      ((new (start.preferring last)).performEach (reads ++ writes)).tasks =
        ((new start).performEach (reads ++ writes)).tasks ∧
      ((new (start.preferring last)).performEach (reads ++ writes)).database.pool.locks =
        ((new start).performEach (reads ++ writes)).database.pool.locks ∧
      ((new (start.preferring last)).performEach reads).database.pool.isCached ⟨⟨0⟩, 0⟩ = true ∧
      ((new start).performEach reads).database.pool.isCached ⟨⟨0⟩, 0⟩ = false ∧
      ((new start).answers (reads ++ writes))[9]? = some (.turned .asleep) ∧
      ((new start).answers (reads ++ writes))[13]? =
        some (.turned (.finished (.failed (.poolExhausted 2)))) := by
  intro start last fetch reads writes
  have setUp : start.SetUp := Samples.setUp_table (by decide) _
  have concurrent : (new start).Throughout Concurrent (reads ++ writes) := by decide +kernel
  obtain ⟨same, tasks, locks⟩ := answers_ignore_preference setUp last concurrent
  exact ⟨setUp, concurrent, same, tasks, locks, by decide +kernel, by decide +kernel,
    by decide +kernel, by decide +kernel⟩

end Engine

end RowStore
