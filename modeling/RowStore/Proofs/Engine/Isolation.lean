import RowStore.Proofs.Engine.Steps
import RowStore.Proofs.Lock.Ownership

/-!
Isolation of transactions: in every run of an engine, what an operation is shown of a page is what
was committed on it, with the changes of its own transaction.
-/

set_option autoImplicit false

namespace RowStore

def Progress.task? : Progress → Option Task
  | .finished _ => none
  | .waiting task => some task

theorem Progress.eq_waiting {progress : Progress} {task : Task}
    (goesOn : progress.task? = some task) : progress = .waiting task := by
  cases progress with
  | finished outcome => cases goesOn
  | waiting rest =>
      cases goesOn
      rfl

namespace Engine

/-! ### Invariant -/

structure Guarded (engine : Engine) (start : Database) (journal : Journal) : Prop where
  database : engine.database.Isolated start journal
  proper : ∀ (ticket : Nat) (task : Task), engine.tasks[ticket]? = some task →
    task.Proper start.catalog
  asleep : ∀ (ticket : Nat) (sleeper : Sleeper),
    engine.database.pool.locks.sleepers[ticket]? = some sleeper →
      ∃ task, engine.tasks[ticket]? = some task ∧ task.request = sleeper.request

/-- Besides, sessions hold what their transactions do, as long as none ends while a request of its
own sleeps. -/
structure Isolated (engine : Engine) (start : Database) (journal : Journal) : Prop
    extends Guarded engine start journal where
  accounted : engine.database.pool.locks.Accounted

theorem guarded_new {start : Database} (setUp : start.SetUp) :
    (new start).Guarded start Journal.empty := by
  constructor
  · exact setUp.isolated
  · intro ticket task found
    simp [new] at found
  · intro ticket sleeper found
    obtain ⟨capacity, preference, fresh⟩ := setUp.pool
    simp [new, fresh, Pool.new, LockTable.empty] at found

theorem isolated_new {start : Database} (setUp : start.SetUp) :
    (new start).Isolated start Journal.empty := by
  refine ⟨guarded_new setUp, ?_⟩
  obtain ⟨capacity, preference, fresh⟩ := setUp.pool
  change start.pool.locks.Accounted
  rw [fresh]
  exact LockTable.accounted_empty

theorem database_note (engine : Engine) (ticket : Nat) (database : Database)
    (progress : Progress) : (engine.note ticket database progress).1.database = database := by
  cases progress <;> rfl

theorem tasks_note (engine : Engine) (ticket : Nat) (database : Database) (progress : Progress)
    (other : Nat) : (engine.note ticket database progress).1.tasks[other]? =
      if other = ticket then progress.task? else engine.tasks[other]? := by
  cases progress with
  | finished outcome =>
      simp only [note, Progress.task?, Std.ExtTreeMap.getElem?_erase,
        Std.LawfulEqCmp.compare_eq_iff_eq, @eq_comm _ ticket other]
  | waiting task =>
      simp only [note, Progress.task?, Std.ExtTreeMap.getElem?_insert,
        Std.LawfulEqCmp.compare_eq_iff_eq, @eq_comm _ ticket other]

theorem eq_finished_of_note {engine : Engine} {ticket : Nat} {database : Database}
    {progress : Progress} {outcome : Outcome}
    (finishes : (engine.note ticket database progress).2 = .finished outcome) :
    progress = .finished outcome := by
  cases progress with
  | finished other =>
      cases finishes
      rfl
  | waiting task => cases finishes

/-! ### Turns -/

theorem turn_of_unused {engine : Engine} {ticket : Nat} (unused : engine.tasks[ticket]? = none) :
    engine.turn ticket = (engine, .asleep) := by
  unfold Engine.turn
  rw [unused]

def checked (engine : Engine) (ticket : Nat) (task : Task) : Database :=
  engine.database.setLocks (engine.database.pool.locks.acquire ticket task.request).1

theorem turn_of_task {engine : Engine} {ticket : Nat} {task : Task}
    (found : engine.tasks[ticket]? = some task) :
    engine.turn ticket = match (engine.database.pool.locks.acquire ticket task.request).2 with
      | .asleep => (engine.setDatabase (engine.checked ticket task), .asleep)
      | .refused fault =>
          engine.note ticket (engine.checked ticket task) (.finished (task.fail fault))
      | .granted =>
          engine.note ticket (Progress.ofTask (engine.checked ticket task) task).1
            (Progress.ofTask (engine.checked ticket task) task).2 := by
  unfold Engine.turn Engine.checked
  generalize engine.tasks[ticket]? = looked at found ⊢
  subst found
  rfl

inductive TurnsTo (engine : Engine) (ticket : Nat) (task : Task) : Prop where
  | asleep (comes : engine.turn ticket =
        (engine.setDatabase (engine.checked ticket task), .asleep))
      (still : ∀ sleeper : Sleeper,
        (engine.checked ticket task).pool.locks.sleepers[ticket]? = some sleeper →
          task.request = sleeper.request)
  | refused (fault : Fault)
      (comes : engine.turn ticket =
        engine.note ticket (engine.checked ticket task) (.finished (task.fail fault)))
      (awake : (engine.checked ticket task).pool.locks.sleepers[ticket]? = none)
  | granted (comes : engine.turn ticket =
        engine.note ticket (Progress.ofTask (engine.checked ticket task) task).1
          (Progress.ofTask (engine.checked ticket task) task).2)
      (awake : (engine.checked ticket task).pool.locks.sleepers[ticket]? = none)
      (permits : (engine.checked ticket task).pool.locks.Permits task.request)

theorem turnsTo_of_answers {engine : Engine} {ticket : Nat} {task : Task}
    (found : engine.tasks[ticket]? = some task)
    (answers : engine.database.pool.locks.Answers (engine.checked ticket task).pool.locks ticket
      task.request (engine.database.pool.locks.acquire ticket task.request).2) :
    engine.TurnsTo ticket task := by
  obtain ⟨_, granted, asleep⟩ := answers
  have awake (settled : (engine.database.pool.locks.acquire ticket task.request).2 ≠ .asleep) :
      (engine.checked ticket task).pool.locks.sleepers[ticket]? = none := by
    cases sleeps : (engine.checked ticket task).pool.locks.sleepers[ticket]? with
    | none => rfl
    | some sleeper => exact absurd (asleep sleeper sleeps).1 settled
  cases verdict : (engine.database.pool.locks.acquire ticket task.request).2 with
  | asleep =>
      refine .asleep ?_ (fun sleeper sleeps => (asleep sleeper sleeps).2.symm)
      unfold Engine.turn
      rw [found]
      dsimp only
      rw [verdict]
      rfl
  | refused fault =>
      rw [verdict] at awake
      refine .refused fault ?_ (awake (fun impossible => by cases impossible))
      unfold Engine.turn
      rw [found]
      dsimp only
      rw [verdict]
      rfl
  | granted =>
      rw [verdict] at awake
      refine .granted ?_ (awake (fun impossible => by cases impossible)) (granted verdict)
      unfold Engine.turn
      rw [found]
      dsimp only
      rw [verdict]
      rfl

section

variable {start : Database} {engine : Engine} {journal : Journal}

theorem Guarded.answers (guarded : engine.Guarded start journal) {ticket : Nat}
    {task : Task} (found : engine.tasks[ticket]? = some task) :
    engine.database.pool.locks.Answers (engine.checked ticket task).pool.locks ticket
      task.request (engine.database.pool.locks.acquire ticket task.request).2 := by
  apply LockTable.answers_acquire
  intro sleeper sleeps
  obtain ⟨other, foundOther, request⟩ := guarded.asleep ticket sleeper sleeps
  rw [found] at foundOther
  cases foundOther
  exact request.symm

theorem Guarded.checked (guarded : engine.Guarded start journal) (ticket : Nat)
    (task : Task) : (engine.checked ticket task).Isolated start journal := by
  apply guarded.database.setLocks
  · exact guarded.database.exclusive.acquire ticket task.request
  · intro transaction page holds
    obtain ⟨held, mode, covers⟩ := LockTable.lockMode?_acquire_covers ticket task.request holds
    rw [mode, covers rfl]

theorem Guarded.turnsTo (guarded : engine.Guarded start journal) {ticket : Nat} {task : Task}
    (found : engine.tasks[ticket]? = some task) : engine.TurnsTo ticket task :=
  turnsTo_of_answers found (guarded.answers found)

private theorem Guarded.note (guarded : engine.Guarded start journal) {ticket : Nat}
    {database : Database} {progress : Progress} {noted : Journal}
    (reached : database.Isolated start noted)
    (proper : ∀ task, progress = .waiting task → task.Proper start.catalog)
    (awake : database.pool.locks.sleepers[ticket]? = none)
    (others : ∀ other, other ≠ ticket → database.pool.locks.sleepers[other]? =
      engine.database.pool.locks.sleepers[other]?) :
    (engine.note ticket database progress).1.Guarded start noted := by
  constructor
  · rw [database_note]
    exact reached
  · intro other task found
    rw [tasks_note] at found
    split at found
    · cases progress with
      | finished outcome => cases found
      | waiting rest =>
          cases found
          exact proper task rfl
    · exact guarded.proper other task found
  · intro other sleeper found
    rw [database_note] at found
    by_cases same : other = ticket
    · rw [same, awake] at found
      cases found
    · rw [others other same] at found
      rw [tasks_note, if_neg same]
      exact guarded.asleep other sleeper found

theorem Guarded.begin (guarded : engine.Guarded start journal) (setUp : start.SetUp)
    {ticket : Nat} {operation : Operation} (unused : engine.tasks[ticket]? = none)
    (transactional : operation.Transactional) :
    (engine.begin ticket operation).1.Guarded start journal := by
  obtain ⟨reached, locks, _, proper, _⟩ := guarded.database.begins setUp transactional
  unfold Engine.begin
  cases begun : Progress.ofOperation engine.database operation with
  | mk database progress =>
      rw [begun] at reached locks proper
      refine guarded.note reached (fun task waits => (proper task waits).1) ?_ ?_
      · rw [locks]
        cases sleeps : engine.database.pool.locks.sleepers[ticket]? with
        | none => rfl
        | some sleeper =>
            obtain ⟨task, found, _⟩ := guarded.asleep ticket sleeper sleeps
            rw [unused] at found
            cases found
      · intro other _
        rw [locks]

theorem after_turn (journal : Journal) {ticket : Nat} {task : Task}
    (found : engine.tasks[ticket]? = some task) {next : Database} {progress : Progress}
    (turns : engine.turn ticket = engine.note ticket next progress) :
    journal.after engine (.turn ticket) = journal.noting task progress := by
  unfold Journal.after
  dsimp only
  rw [found, turns]
  cases progress <;> rfl

theorem Guarded.turn (guarded : engine.Guarded start journal) (setUp : start.SetUp)
    (ticket : Nat) :
    (engine.turn ticket).1.Guarded start (journal.after engine (.turn ticket)) := by
  cases found : engine.tasks[ticket]? with
  | none =>
      unfold Journal.after
      dsimp only
      rw [found, turn_of_unused found]
      exact guarded
  | some task =>
      have checked := guarded.checked ticket task
      have others := (guarded.answers found).others
      cases guarded.turnsTo found with
      | asleep comes still =>
          unfold Journal.after
          dsimp only
          rw [found, comes]
          refine ⟨checked, guarded.proper, ?_⟩
          intro other sleeper sleeps
          by_cases same : other = ticket
          · rw [same] at sleeps ⊢
            exact ⟨task, found, still sleeper sleeps⟩
          · exact guarded.asleep other sleeper ((others other same).symm.trans sleeps)
      | refused fault comes awake =>
          rw [after_turn journal found comes, comes,
            journal.noting_of_unchanged (task.change?_fail fault)]
          refine guarded.note checked ?_ awake others
          intro rest impossible
          cases impossible
      | granted comes awake permits =>
          rw [after_turn journal found comes, comes]
          obtain ⟨reached, locks, _, proper, _⟩ :=
            checked.goes setUp (guarded.proper ticket task found) permits
          rw [← locks] at awake others
          exact guarded.note reached (fun rest waits => (proper rest waits).1) awake others

private theorem Guarded.setDatabase (guarded : engine.Guarded start journal)
    {transaction : TransactionId} {database : Database} {ended : Journal}
    (reached : database.Isolated start ended)
    (locks : database.pool.locks = engine.database.pool.locks.releaseAll transaction) :
    (engine.setDatabase database).Guarded start ended := by
  refine ⟨reached, guarded.proper, ?_⟩
  intro ticket sleeper found
  change database.pool.locks.sleepers[ticket]? = some sleeper at found
  rw [locks] at found
  obtain ⟨before, foundBefore, same⟩ := LockTable.sleeper_of_foldl_release found
  obtain ⟨task, own, request⟩ := guarded.asleep ticket before foundBefore
  exact ⟨task, own, request.trans same⟩

theorem Guarded.perform (guarded : engine.Guarded start journal) (setUp : start.SetUp)
    {action : EngineAction} (concurrent : engine.Concurrent action) :
    (engine.perform action).Guarded start (journal.after engine action) := by
  cases action with
  | begin ticket operation => exact guarded.begin setUp concurrent.1 concurrent.2
  | turn ticket => exact guarded.turn setUp ticket
  | commit transaction =>
      obtain ⟨succeeds, reached, locks⟩ := guarded.database.commit setUp transaction
      unfold Journal.after
      dsimp only
      rw [succeeds]
      exact guarded.setDatabase reached locks
  | abort transaction =>
      obtain ⟨reached, locks⟩ := guarded.database.abort transaction
      exact guarded.setDatabase reached locks

/-! ### Tasks -/

/-- A task was under way before the action, or comes of the operation that begins, or of the task
that takes its turn and is granted its lock. -/
theorem Guarded.task_cases (guarded : engine.Guarded start journal) {action : EngineAction}
    {ticket : Nat} {rest : Task} (found : (engine.perform action).tasks[ticket]? = some rest) :
    engine.tasks[ticket]? = some rest ∨
    (∃ operation, action = .begin ticket operation ∧
      Progress.ofOperation engine.database operation =
        ((engine.perform action).database, .waiting rest)) ∨
    ∃ task, action = .turn ticket ∧ engine.tasks[ticket]? = some task ∧
      (engine.checked ticket task).pool.locks.Permits task.request ∧
        Progress.ofTask (engine.checked ticket task) task =
          ((engine.perform action).database, .waiting rest) := by
  cases action with
  | begin began operation =>
      unfold Engine.perform Engine.begin at found ⊢
      dsimp only at found ⊢
      rw [tasks_note] at found
      rw [database_note]
      split at found
      · rename_i same
        subst same
        exact Or.inr (Or.inl ⟨operation, rfl, Prod.ext rfl (Progress.eq_waiting found)⟩)
      · exact Or.inl found
  | turn turned =>
      change (engine.turn turned).1.tasks[ticket]? = some rest at found
      change _ ∨ _ ∨ ∃ task, _ ∧ _ ∧ _ ∧
        _ = ((engine.turn turned).1.database, Progress.waiting rest)
      cases under : engine.tasks[turned]? with
      | none =>
          rw [turn_of_unused under] at found
          exact Or.inl found
      | some task =>
          cases guarded.turnsTo under with
          | asleep comes still =>
              rw [comes] at found
              exact Or.inl found
          | refused fault comes awake =>
              rw [comes, tasks_note] at found
              split at found
              · cases found
              · exact Or.inl found
          | granted comes awake permits =>
              rw [comes, tasks_note] at found
              split at found
              · rename_i same
                subst same
                rw [comes, database_note]
                exact Or.inr (Or.inr ⟨task, rfl, under, permits,
                  Prod.ext rfl (Progress.eq_waiting found)⟩)
              · exact Or.inl found
  | commit transaction => exact Or.inl found
  | abort transaction => exact Or.inl found

/-! ### Locks -/

def lockActions (engine : Engine) : EngineAction → List LockAction
  | .begin _ _ => []
  | .turn ticket =>
      (engine.tasks[ticket]?.map (fun task => LockAction.acquire ticket task.request)).toList
  | .commit transaction => [.releaseAll transaction]
  | .abort transaction => [.releaseAll transaction]

theorem Guarded.locks_begin (guarded : engine.Guarded start journal) (setUp : start.SetUp)
    (ticket : Nat) {operation : Operation} (transactional : operation.Transactional) :
    (engine.begin ticket operation).1.database.pool.locks = engine.database.pool.locks := by
  unfold Engine.begin
  dsimp only
  rw [database_note]
  exact (guarded.database.begins setUp transactional).locks

theorem Guarded.locks_turn (guarded : engine.Guarded start journal) (setUp : start.SetUp)
    {ticket : Nat} {task : Task} (found : engine.tasks[ticket]? = some task) :
    (engine.turn ticket).1.database.pool.locks = (engine.checked ticket task).pool.locks := by
  cases guarded.turnsTo found with
  | asleep comes still =>
      rw [comes]
      rfl
  | refused fault comes awake => rw [comes, database_note]
  | granted comes awake permits =>
      rw [comes, database_note]
      have proper := guarded.proper ticket task found
      exact ((guarded.checked ticket task).goes setUp proper permits).locks

theorem Guarded.locks_perform (guarded : engine.Guarded start journal) (setUp : start.SetUp)
    {action : EngineAction} (concurrent : engine.Concurrent action) :
    (engine.perform action).database.pool.locks =
      (engine.lockActions action).foldl LockTable.perform engine.database.pool.locks := by
  cases action with
  | begin ticket operation => exact guarded.locks_begin setUp ticket concurrent.2
  | turn ticket =>
      change (engine.turn ticket).1.database.pool.locks = _
      unfold lockActions
      dsimp only
      cases found : engine.tasks[ticket]? with
      | none =>
          rw [turn_of_unused found]
          rfl
      | some task => exact guarded.locks_turn setUp found
  | commit transaction => exact (guarded.database.commit setUp transaction).2.2
  | abort transaction => exact (guarded.database.abort transaction).2

/-- What becomes neither false when a task asks for its lock nor when a transaction that ends gives
back its locks is as true after the action. -/
theorem Guarded.locks_invariant (guarded : engine.Guarded start journal) (setUp : start.SetUp)
    {action : EngineAction} (concurrent : engine.Concurrent action) (kept : LockTable → Prop)
    (before : kept engine.database.pool.locks)
    (acquires : ∀ (ticket : Nat) (task : Task), engine.tasks[ticket]? = some task →
      kept (engine.database.pool.locks.acquire ticket task.request).1)
    (releases : ∀ transaction, action = .commit transaction ∨ action = .abort transaction →
      kept (engine.database.pool.locks.releaseAll transaction)) :
    kept (engine.perform action).database.pool.locks := by
  rw [guarded.locks_perform setUp concurrent]
  cases action with
  | begin ticket operation => exact before
  | turn ticket =>
      unfold lockActions
      dsimp only
      cases found : engine.tasks[ticket]? with
      | none => exact before
      | some task => exact acquires ticket task found
  | commit transaction => exact releases transaction (Or.inl rfl)
  | abort transaction => exact releases transaction (Or.inr rfl)

theorem Guarded.keeps_lock (guarded : engine.Guarded start journal) (setUp : start.SetUp)
    {action : EngineAction} (concurrent : engine.Concurrent action) {transaction : TransactionId}
    {page : PageId} {held : LockMode}
    (holds : engine.database.pool.locks.lockMode? transaction page = some held)
    (notCommitted : action ≠ .commit transaction) (notAborted : action ≠ .abort transaction) :
    ∃ kept, (engine.perform action).database.pool.locks.lockMode? transaction page = some kept ∧
      kept.Covers held := by
  refine guarded.locks_invariant setUp concurrent (fun locks =>
    ∃ kept, locks.lockMode? transaction page = some kept ∧ kept.Covers held) ?_ ?_ ?_
  · exact ⟨held, holds, .refl held⟩
  · intro ticket task _
    exact LockTable.lockMode?_acquire_covers ticket task.request holds
  · intro other ends
    have different : transaction ≠ other := by
      rintro rfl
      exact ends.elim notCommitted notAborted
    refine ⟨held, ?_, .refl held⟩
    rw [LockTable.lockMode?_releaseAll, if_neg (fun both => different both.1)]
    exact holds

/-! ### Orderly ends -/

theorem Isolated.begin (isolated : engine.Isolated start journal) (setUp : start.SetUp)
    {ticket : Nat} {operation : Operation} (unused : engine.tasks[ticket]? = none)
    (transactional : operation.Transactional) :
    (engine.begin ticket operation).1.Isolated start journal := by
  refine ⟨isolated.toGuarded.begin setUp unused transactional, ?_⟩
  rw [isolated.locks_begin setUp ticket transactional]
  exact isolated.accounted

theorem Isolated.perform (isolated : engine.Isolated start journal) (setUp : start.SetUp)
    {action : EngineAction} (transactional : engine.Transactional action) :
    (engine.perform action).Isolated start (journal.after engine action) := by
  have concurrent := transactional.concurrent
  refine ⟨isolated.toGuarded.perform setUp concurrent, ?_⟩
  apply isolated.locks_invariant setUp concurrent LockTable.Accounted isolated.accounted
  · intro ticket task _
    exact isolated.accounted.acquire ticket task.request
  · rintro transaction (rfl | rfl)
    · exact isolated.accounted.releaseAll transactional
    · exact isolated.accounted.releaseAll transactional

theorem Isolated.turn (isolated : engine.Isolated start journal) (setUp : start.SetUp)
    (ticket : Nat) :
    (engine.turn ticket).1.Isolated start (journal.after engine (.turn ticket)) := by
  have always : engine.Transactional (.turn ticket) := trivial
  exact isolated.perform setUp always

theorem Isolated.record (isolated : engine.Isolated start journal) (setUp : start.SetUp)
    {actions : List EngineAction} (transactional : engine.TransactionalFrom actions) :
    (engine.record journal actions).1.Isolated start (engine.record journal actions).2 := by
  induction actions generalizing engine journal with
  | nil => exact isolated
  | cons action rest ih => exact ih (isolated.perform setUp transactional.1) transactional.2

end

end Engine

end RowStore
