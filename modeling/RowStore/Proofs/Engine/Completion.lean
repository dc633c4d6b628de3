import RowStore.Proofs.Database.Rest
import RowStore.Proofs.Database.Samples
import RowStore.Proofs.Engine.Turns

/-!
Completion: what committing and aborting do at any moment of any run of transactions, and what is
read afterwards of the pages that an aborted transaction had modified.
-/

set_option autoImplicit false

namespace RowStore

namespace Engine

section

variable {start : Database} {engine : Engine} {journal : Journal}

/-! ### Upkeep in runs -/

theorem Guarded.keeps_begin (guarded : engine.Guarded start journal) (setUp : start.SetUp)
    (ticket : Nat) {operation : Operation} (transactional : operation.Transactional) :
    engine.database.Keeps (engine.begin ticket operation).1.database := by
  unfold Engine.begin
  dsimp only
  rw [database_note]
  exact (guarded.database.begins setUp transactional).keeps

theorem Guarded.keeps_turn (guarded : engine.Guarded start journal) (setUp : start.SetUp)
    (ticket : Nat) : engine.database.Keeps (engine.turn ticket).1.database := by
  cases found : engine.tasks[ticket]? with
  | none =>
      rw [turn_of_unused found]
      exact .refl _
  | some task =>
      have checked : engine.database.Keeps (engine.checked ticket task) :=
        engine.database.keeps_setLocks _
      cases guarded.turnsTo found with
      | asleep comes still =>
          rw [comes]
          exact checked
      | refused fault comes awake =>
          rw [comes, database_note]
          exact checked
      | granted comes awake permits =>
          rw [comes, database_note]
          have proper := guarded.proper ticket task found
          exact checked.trans ((guarded.checked ticket task).goes setUp proper permits).keeps

theorem Guarded.keeps_perform (guarded : engine.Guarded start journal) (setUp : start.SetUp)
    {action : EngineAction} (concurrent : engine.Concurrent action) :
    engine.database.Keeps (engine.perform action).database := by
  cases action with
  | begin ticket operation => exact guarded.keeps_begin setUp ticket concurrent.2
  | turn ticket => exact guarded.keeps_turn setUp ticket
  | commit transaction => exact guarded.database.keeps_commit setUp transaction
  | abort transaction => exact engine.database.keeps_dismiss transaction

theorem Isolated.keeps_record (isolated : engine.Isolated start journal) (setUp : start.SetUp)
    {actions : List EngineAction} (transactional : engine.TransactionalFrom actions) :
    engine.database.Keeps (engine.record journal actions).1.database := by
  induction actions generalizing engine journal with
  | nil => exact .refl _
  | cons action rest ih =>
      have step := isolated.keeps_perform setUp transactional.1.concurrent
      exact step.trans (ih (isolated.perform setUp transactional.1) transactional.2)

/-! ### Ending a transaction -/

structure Completes (engine : Engine) (journal : Journal) (transaction : TransactionId) :
    Prop where
  commits : (engine.database.commit transaction).2 = .ok ()
  saves : engine.database.Saves (engine.database.commit transaction).1 transaction
  committed : engine.database.Forgets (engine.database.commit transaction).1 transaction
  unwritten : (engine.database.abort transaction).volume = engine.database.volume
  aborted : engine.database.Forgets (engine.database.abort transaction) transaction
  modified : ∀ change ∈ journal.pending transaction, ∃ content,
    engine.database.Modified transaction change.record.page content
  /-- Whoever fetches a page next that the aborted transaction modified has it from the disk. -/
  reread : ∀ page content, engine.database.Modified transaction page content →
    ∃ file onDisk, engine.database.catalog.file page.table = .ok file ∧
      file.readPage (engine.database.abort transaction).volume page = .ok onDisk ∧
        ∀ (ticket : Nat) reader access, engine.tasks[ticket]? = none → ∃ frame,
          ((engine.perform (.abort transaction)).submit ticket
            (.fetch reader page access)).2 = some (.fetched frame onDisk)

private theorem Isolated.reread (isolated : engine.Isolated start journal) (setUp : start.SetUp)
    {transaction : TransactionId}
    (awake : engine.database.pool.locks.sleeps transaction = false)
    (fits : engine.database.pool.Fits) {page : PageId} {content onDisk : Page}
    (modified : engine.database.Modified transaction page content)
    (read : engine.database.diskPage? page = some onDisk) {ticket : Nat}
    (unused : engine.tasks[ticket]? = none) (reader : TransactionId) (access : Access) :
    ∃ frame, ((engine.perform (.abort transaction)).submit ticket
      (.fetch reader page access)).2 = some (.fetched frame onDisk) := by
  have aborted : (engine.perform (.abort transaction)).Isolated start
      (journal.after engine (.abort transaction)) := isolated.perform setUp awake
  obtain ⟨⟨absent, _⟩, room, free⟩ :=
    isolated.database.reread_of_modified isolated.accounted fits modified
  apply submit_fetch
  · cases sleeps : (engine.perform (.abort transaction)).database.pool.locks.sleepers[ticket]? with
    | none => rfl
    | some sleeper =>
        obtain ⟨task, found, _⟩ := aborted.asleep ticket sleeper sleeps
        change engine.tasks[ticket]? = some task at found
        rw [unused] at found
        cases found
  · apply Holders.opposing_eq_nil.mpr
    intro holder held _ holds
    exact absurd (holds.symm.trans (free holder)) (fun impossible => by cases impossible)
  · exact aborted.database.sound
  · exact absent
  · exact read
  · exact room

theorem Isolated.completes (isolated : engine.Isolated start journal) (setUp : start.SetUp)
    {transaction : TransactionId}
    (awake : engine.database.pool.locks.sleeps transaction = false)
    (fits : engine.database.pool.Fits) : engine.Completes journal transaction := by
  obtain ⟨commits, saves, committed⟩ :=
    isolated.database.commit_saves setUp isolated.accounted awake
  refine ⟨commits, saves, committed, rfl,
    isolated.database.abort_forgets isolated.accounted awake, ?_, ?_⟩
  · intro change member
    obtain ⟨frame, content, found, owned⟩ :=
      isolated.database.pending transaction change member
    exact ⟨content, frame, found, owned⟩
  · intro page content modified
    obtain ⟨⟨_, onDisk, read⟩, _⟩ :=
      isolated.database.reread_of_modified isolated.accounted fits modified
    obtain ⟨file, registered, readFile⟩ := Database.diskPage?_eq_some.mp read
    refine ⟨file, onDisk, registered, readFile, ?_⟩
    intro ticket reader access unused
    exact isolated.reread setUp awake fits modified read unused reader access

end

/-- At every moment of every run, a transaction that has no request asleep can be committed or
aborted. Committing it writes the pages it modified and no other byte, aborting it writes none, and
the changes of others stay in the pool. -/
theorem completion_is_exact {start : Database} (setUp : start.SetUp)
    {actions : List EngineAction} (transactional : (new start).TransactionalFrom actions)
    {transaction : TransactionId}
    (awake : ((new start).record .empty actions).1.database.pool.locks.sleeps transaction =
      false) :
    ((new start).record .empty actions).1.Completes ((new start).record .empty actions).2
      transaction := by
  have isolated := isolated_new setUp
  have kept := isolated.keeps_record setUp transactional
  exact (isolated.record setUp transactional).completes setUp awake (kept.pool.fits setUp.atRest.fits)

/-- Two transactions have each added a row to a table of their own when the first one ends. -/
theorem completion_is_exact_beside_another :
    let start : Database := Samples.tables 2 0 0
    let actions : List EngineAction :=
      [.begin 0 (.insert ⟨1⟩ Samples.left.id (Samples.row 7)), .turn 0,
        .begin 1 (.insert ⟨2⟩ Samples.right.id (Samples.row 8)), .turn 1]
    start.SetUp ∧ (new start).TransactionalFrom actions ∧
      ((new start).record .empty actions).1.database.pool.locks.sleeps ⟨1⟩ = false ∧
      ((new start).record .empty actions).1.Completes ((new start).record .empty actions).2 ⟨1⟩ ∧
      (((new start).record .empty actions).2.pending ⟨1⟩).length = 1 ∧
      (((new start).record .empty actions).2.pending ⟨2⟩).length = 1 := by
  intro start actions
  have setUp : start.SetUp := Samples.setUp_tables (by decide) _ _
  have transactional : (new start).TransactionalFrom actions := by decide +kernel
  have awake : ((new start).record .empty actions).1.database.pool.locks.sleeps ⟨1⟩ = false := by
    decide +kernel
  exact ⟨setUp, transactional, awake, completion_is_exact setUp transactional awake,
    by decide +kernel, by decide +kernel⟩

end Engine

end RowStore
