import RowStore.Proofs.Engine.Calls
import RowStore.Proofs.Engine.Completion
import RowStore.Proofs.Lock.Gates

/-!
Sequential transactions: each of them has at most one operation under way, and ends only between two
of them. Their locks are sound in every run, and their requests are refused for deadlocks only. When
all of them have ended, the engine is at rest, and as one that was just made on the disk as it is.
-/

set_option autoImplicit false

namespace RowStore

def EngineAction.caller? : EngineAction → Option TransactionId
  | .begin _ operation => some operation.transaction
  | .turn _ => none
  | .commit transaction => some transaction
  | .abort transaction => some transaction

namespace Engine

/-! ### One operation at a time -/

def isBusy (engine : Engine) (transaction : TransactionId) : Bool :=
  engine.tasks.toList.any (fun entry => entry.2.transaction == transaction)

/-- A transaction begins nothing, and does not end, while an operation of its own is under way. -/
def Sequential (engine : Engine) (action : EngineAction) : Prop :=
  engine.Concurrent action ∧ action.caller?.any engine.isBusy = false

instance (engine : Engine) (action : EngineAction) : Decidable (engine.Sequential action) := by
  unfold Engine.Sequential
  infer_instance

theorem isBusy_eq_false {engine : Engine} {transaction : TransactionId} :
    engine.isBusy transaction = false ↔
      ∀ (ticket : Nat) (task : Task), engine.tasks[ticket]? = some task →
        task.transaction ≠ transaction := by
  simp only [isBusy, List.any_eq_false, beq_iff_eq, Prod.forall,
    Std.ExtTreeMap.mem_toList_iff_getElem?_eq_some]

structure Sequenced (engine : Engine) (start : Database) (journal : Journal) : Prop
    extends Guarded engine start journal where
  single : ∀ (left right : Nat) (one other : Task), engine.tasks[left]? = some one →
    engine.tasks[right]? = some other → one.transaction = other.transaction → left = right
  sound : engine.database.pool.locks.Sound
  calm : engine.database.pool.locks.Uninterrupted

theorem sequenced_new {start : Database} (setUp : start.SetUp) :
    (new start).Sequenced start Journal.empty := by
  obtain ⟨capacity, preference, fresh⟩ := setUp.pool
  have locks : (new start).database.pool.locks = LockTable.empty := by
    change start.pool.locks = _
    rw [fresh]
    rfl
  refine ⟨guarded_new setUp, ?_, ?_, ?_⟩
  · intro left right one other found
    simp [new] at found
  · rw [locks]
    exact LockTable.sound_empty
  · rw [locks]
    exact LockTable.uninterrupted_empty

section

variable {start : Database} {engine : Engine} {journal : Journal}

/-- A task is one that was under way, or a rest of it, or comes of the operation that begins. -/
theorem Guarded.owner_cases (guarded : engine.Guarded start journal) (setUp : start.SetUp)
    {action : EngineAction} (concurrent : engine.Concurrent action) {ticket : Nat} {rest : Task}
    (found : (engine.perform action).tasks[ticket]? = some rest) :
    (∃ task, engine.tasks[ticket]? = some task ∧ rest.transaction = task.transaction) ∨
      ∃ operation, action = .begin ticket operation ∧
        rest.transaction = operation.transaction := by
  rcases guarded.task_cases found with before | ⟨operation, rfl, begins⟩ |
    ⟨task, rfl, under, permits, goes⟩
  · exact Or.inl ⟨rest, before, rfl⟩
  · have waits : (Progress.ofOperation engine.database operation).2 = .waiting rest :=
      congrArg Prod.snd begins
    have does := ((guarded.database.begins setUp concurrent.2).proper rest waits).2
    exact Or.inr ⟨operation, rfl, does.transaction⟩
  · have waits : (Progress.ofTask (engine.checked ticket task) task).2 = .waiting rest :=
      congrArg Prod.snd goes
    have step := (guarded.checked ticket task).goes setUp (guarded.proper ticket task under) permits
    exact Or.inl ⟨task, under, (step.proper rest waits).2.transaction⟩

theorem Guarded.sleeps_eq_false (guarded : engine.Guarded start journal)
    {transaction : TransactionId} (free : engine.isBusy transaction = false) :
    engine.database.pool.locks.sleeps transaction = false := by
  apply LockTable.sleeps_eq_false.mpr
  intro ticket sleeper sleeps own
  obtain ⟨task, found, request⟩ := guarded.asleep ticket sleeper sleeps
  rw [← request] at own
  exact isBusy_eq_false.mp free ticket task found own

private theorem Sequenced.single_perform (sequenced : engine.Sequenced start journal)
    (setUp : start.SetUp) {action : EngineAction} (sequential : engine.Sequential action)
    {left right : Nat} {one other : Task}
    (foundOne : (engine.perform action).tasks[left]? = some one)
    (foundOther : (engine.perform action).tasks[right]? = some other)
    (same : one.transaction = other.transaction) : left = right := by
  obtain ⟨concurrent, free⟩ := sequential
  -- Whoever begins an operation had none under way.
  have apart {ticket began : Nat} {task : Task} {operation : Operation}
      (begins : action = .begin began operation) (found : engine.tasks[ticket]? = some task) :
      task.transaction ≠ operation.transaction := by
    subst begins
    exact isBusy_eq_false.mp free ticket task found
  rcases sequenced.owner_cases setUp concurrent foundOne with ⟨task, under, own⟩ |
    ⟨operation, began, own⟩
  · rcases sequenced.owner_cases setUp concurrent foundOther with ⟨more, underOther, ownOther⟩ |
      ⟨operation, began, ownOther⟩
    · rw [own, ownOther] at same
      exact sequenced.single left right task more under underOther same
    · rw [own, ownOther] at same
      exact absurd same (apart began under)
  · rcases sequenced.owner_cases setUp concurrent foundOther with ⟨more, underOther, ownOther⟩ |
      ⟨again, beganOther, ownOther⟩
    · rw [own, ownOther] at same
      exact absurd same.symm (apart began underOther)
    · rw [began] at beganOther
      cases beganOther
      rfl

/-- A lock is not asked for, and not all locks are given back, while a request of the same
transaction sleeps. -/
theorem Sequenced.orderly (sequenced : engine.Sequenced start journal) {action : EngineAction}
    (sequential : engine.Sequential action) :
    engine.database.pool.locks.OrderlyFrom (engine.lockActions action) := by
  cases action with
  | begin ticket operation => trivial
  | turn ticket =>
      unfold lockActions
      dsimp only
      cases found : engine.tasks[ticket]? with
      | none => trivial
      | some task =>
          refine ⟨?_, trivial⟩
          intro unused
          apply LockTable.sleeps_eq_false.mpr
          intro other sleeper sleeps own
          obtain ⟨asleep, under, request⟩ := sequenced.asleep other sleeper sleeps
          rw [← request] at own
          rw [sequenced.single other ticket asleep task under found own, unused] at sleeps
          cases sleeps
  | commit transaction => exact ⟨sequenced.sleeps_eq_false sequential.2, trivial⟩
  | abort transaction => exact ⟨sequenced.sleeps_eq_false sequential.2, trivial⟩

theorem Sequenced.perform (sequenced : engine.Sequenced start journal) (setUp : start.SetUp)
    {action : EngineAction} (sequential : engine.Sequential action) :
    (engine.perform action).Sequenced start (journal.after engine action) := by
  refine ⟨sequenced.toGuarded.perform setUp sequential.1,
    fun _ _ _ _ => sequenced.single_perform setUp sequential, ?_, ?_⟩
  · rw [sequenced.locks_perform setUp sequential.1]
    exact LockTable.orderlyFrom_invariant (fun _ _ sound orderly => sound.perform orderly)
      sequenced.sound (sequenced.orderly sequential)
  · exact sequenced.locks_invariant setUp sequential.1 LockTable.Uninterrupted sequenced.calm
      (fun ticket task _ => sequenced.calm.acquire ticket task.request)
      (fun transaction _ => sequenced.calm.releaseAll transaction)

theorem Sequenced.performEach (sequenced : engine.Sequenced start journal) (setUp : start.SetUp)
    {actions : List EngineAction} (sequential : engine.Throughout Sequential actions) :
    (engine.performEach actions).Sequenced start (engine.record journal actions).2 :=
  record_invariant (fun engine journal => engine.Sequenced start journal)
    (fun _ _ _ sequenced sequential => sequenced.perform setUp sequential) sequenced sequential

/-! ### Engines at rest -/

structure Idle (engine : Engine) : Prop where
  still : ∀ ticket : Nat, engine.tasks[ticket]? = none
  free : ∀ transaction page, engine.database.pool.locks.lockMode? transaction page = none

/-- Nothing is under way, no page is locked, and what is in the pool is as on the disk. The lock
table is as orderly requests leave it, and none of them is to be refused but for a deadlock. -/
structure Rested (engine : Engine) (start : Database) : Prop where
  catalog : engine.database.catalog = start.catalog
  rest : engine.database.AtRest
  unwritten : ∀ transaction, engine.database.pool.writtenBy transaction = []
  sound : engine.database.pool.locks.Sound
  calm : engine.database.pool.locks.Uninterrupted
  still : ∀ ticket : Nat, engine.tasks[ticket]? = none

theorem Sequenced.rested (sequenced : engine.Sequenced start journal)
    (fits : engine.database.pool.Fits) (idle : engine.Idle) : engine.Rested start where
  catalog := sequenced.database.catalog
  rest := by
    apply sequenced.database.atRest fits idle.free
    intro ticket
    cases sleeps : engine.database.pool.locks.sleepers[ticket]? with
    | none => rfl
    | some sleeper =>
        obtain ⟨task, found, _⟩ := sequenced.asleep ticket sleeper sleeps
        cases (idle.still ticket).symm.trans found
  unwritten := by
    intro transaction
    rw [List.eq_nil_iff_forall_not_mem]
    intro page member
    cases (sequenced.database.written transaction page member).symm.trans
      (idle.free transaction page)
  sound := sequenced.sound
  calm := sequenced.calm
  still := idle.still

/-- An engine at rest is as one that was just made, on the disk as it is now. -/
theorem Rested.sequenced (rested : engine.Rested start) :
    engine.Sequenced { start with volume := engine.database.volume } Journal.empty where
  database := rested.rest.isolated rested.catalog rested.unwritten
  proper := by
    intro ticket task found
    cases (rested.still ticket).symm.trans found
  asleep := by
    intro ticket sleeper sleeps
    cases (rested.rest.awake ticket).symm.trans sleeps
  single := by
    intro left right one other found
    cases (rested.still left).symm.trans found
  sound := rested.sound
  calm := rested.calm

end

end Engine

end RowStore
