import RowStore.Proofs.Database.Samples
import RowStore.Proofs.Database.Trials
import RowStore.Proofs.Engine.Inserters
import RowStore.Proofs.Service.Tenure

/-!
Attempts: an insertion or a deletion that nothing comes between ends, or comes to wait for a page
that another transaction holds, or the disk refuses something that it needs. Unless it succeeds, it
damages nothing.
-/

set_option autoImplicit false

namespace RowStore

/-- An operation that stores or deletes one row and hands its page over to the pool. A row to be
stored has the field types of its schema. -/
def Operation.Edits : Operation → Prop
  | .insert _ _ row => row.Typed
  | .delete _ _ => True
  | _ => False

instance : (operation : Operation) → Decidable operation.Edits
  | .insert _ _ row => inferInstanceAs (Decidable row.Typed)
  | .delete _ _ => isTrue trivial
  | .lock _ | .fetch _ _ _ | .insertInto _ _ _ | .fill _ _ _ _ | .deleteFrom _ _ _
  | .scan _ _ => isFalse id

theorem Operation.Edits.plain {operation : Operation} (edits : operation.Edits) :
    operation.Plain := by
  cases operation with
  | insert transaction table row => exact edits
  | delete transaction row => trivial
  | _ => exact edits.elim

theorem Task.Does.continues {task rest : Task} {operation : Operation} (does : task.Does operation)
    (continues : rest.Continues task) : rest.Does operation where
  transaction := continues.transaction.trans does.transaction
  table := by
    rw [continues.table]
    exact does.table
  change? := fun outcome => (continues.change? outcome).trans (does.change? outcome)

namespace Engine

/-- Whether the action makes the file of a registered table anew. -/
def empties (engine : Engine) (action : DatabaseAction) : Bool :=
  match action.opens? with
  | some (path, .truncating) =>
      match engine.database.catalog.file (engine.database.numbering path) with
      | .ok file => file.path == path
      | .error _ => false
  | _ => false

/-! ### One turn -/

/-- What comes of an operation that nothing comes between: it succeeds, or nothing was damaged, and
it failed or waits for a page that another transaction holds. -/
inductive Attempt (before : Database) (ticket : Nat) (operation : Operation) :
    Engine × Option Outcome → Prop where
  | succeeds {after : Engine} {outcome : Outcome} (changes : outcome.isChange = true) :
      Attempt before ticket operation (after, some outcome)
  | fails {after : Engine} (fault : Fault) (undamaged : before.Undamaged after.database) :
      Attempt before ticket operation (after, some (.failed fault))
  | waits {after : Engine} {task : Task} (found : after.tasks[ticket]? = some task)
      (does : task.Does operation) (still : after.turn ticket = (after, .asleep))
      (opposed : ∃ holder, after.database.pool.locks.Opposes holder task.request)
      (undamaged : before.Undamaged after.database) :
      Attempt before ticket operation (after, none)

structure Refused (before : Database) (operation : Operation) (cause : DiskCause) (after : Engine)
    (outcome : Outcome) : Prop where
  fails : outcome = .failed (.disk cause)
  undamaged : before.Undamaged after.database
  frays : before.FraysFor after.database operation

/-- What an operation has done after some of its turns, be it under way or not, and what comes of it
if it is refused in the next one. -/
structure Trying (before : Database) (ticket : Nat) (operation : Operation) (engine : Engine) :
    Prop where
  catalog : engine.database.catalog = before.catalog
  grows : before.GrowsFor engine.database operation
  refused : ∀ refusal cause next outcome,
    engine.turnRefused? ticket refusal cause = some (next, outcome) →
      Refused before operation cause next outcome

section

variable {before : Database} {engine : Engine} {ticket : Nat} {operation : Operation} {task : Task}

private theorem Grounded.begun (grounded : engine.Grounded)
    (unused : engine.tasks[ticket]? = none) (plain : operation.Plain) {begun : Database}
    (begins : Progress.ofOperation engine.database operation = (begun, .waiting task)) :
    (engine.note ticket begun (.waiting task)).1.Grounded := by
  have onwards : (engine.begin ticket operation).1.Grounded :=
    (@Grounded.serve engine grounded (.perform (.begin ticket operation)) ⟨unused, plain⟩).2
  unfold Engine.begin at onwards
  rw [begins] at onwards
  exact onwards

private theorem turn_of_still (found : engine.tasks[ticket]? = some task)
    (still : engine.database.pool.locks.acquire ticket task.request =
      (engine.database.pool.locks, .asleep)) : engine.turn ticket = (engine, .asleep) := by
  unfold turn
  rw [found]
  dsimp only
  rw [still]
  rfl

theorem turnRefused?_of_still (found : engine.tasks[ticket]? = some task)
    (still : engine.database.pool.locks.acquire ticket task.request =
      (engine.database.pool.locks, .asleep)) {refusal : Refusal} {cause : DiskCause} :
    engine.turnRefused? ticket refusal cause = none := by
  unfold turnRefused?
  rw [found]
  dsimp only
  rw [still]
  exact if_neg nofun

private theorem trying_of_idle (idle : ∀ refusal cause,
      engine.turnRefused? ticket refusal cause = none)
    (catalog : engine.database.catalog = before.catalog)
    (grows : before.GrowsFor engine.database operation) :
    Trying before ticket operation engine := by
  refine ⟨catalog, grows, ?_⟩
  intro refusal cause next outcome refuses
  rw [idle] at refuses
  cases refuses

private theorem trying_of_finished {next : Database} (outcome : Outcome)
    (catalog : next.catalog = before.catalog) (grows : before.GrowsFor next operation) :
    Trying before ticket operation (engine.note ticket next (.finished outcome)).1 := by
  refine trying_of_idle ?_ catalog grows
  intro refusal cause
  have ended : (engine.note ticket next (.finished outcome)).1.tasks[ticket]? = none := by
    rw [tasks_note, if_pos rfl]
    rfl
  unfold turnRefused?
  rw [ended]

theorem attempt_of_ungranted (found : engine.tasks[ticket]? = some task)
    (awake : engine.database.pool.locks.sleepers[ticket]? = none)
    (undamaged : before.Undamaged engine.database) (does : task.Does operation)
    (fails : ∀ fault, task.fail fault = .failed fault)
    (grows : before.GrowsFor (engine.checked ticket task) operation)
    (ungranted : (engine.database.pool.locks.acquire ticket task.request).2 ≠ .granted)
    (bound : Nat) : Trying before ticket operation (engine.turns ticket (bound + 1)).1 ∧
      Attempt before ticket operation (engine.turns ticket (bound + 1)) := by
  have checked : before.Undamaged (engine.checked ticket task) :=
    undamaged.trans (engine.database.undamaged_acquire ticket task.request)
  cases verdict : (engine.database.pool.locks.acquire ticket task.request).2 with
  | granted => exact absurd verdict ungranted
  | refused fault =>
      have turns : engine.turn ticket =
          engine.note ticket (engine.checked ticket task) (.finished (task.fail fault)) := by
        rw [turn_of_task found, verdict]
      rw [turns_of_finished turns, fails]
      exact ⟨trying_of_finished (.failed fault) checked.catalog grows, .fails fault checked⟩
  | asleep =>
      have turns : engine.turn ticket =
          (engine.setDatabase (engine.checked ticket task), .asleep) := by
        rw [turn_of_task found, verdict]
      have last : engine.turns ticket (bound + 1) =
          (engine.setDatabase (engine.checked ticket task), none) := by
        rw [Engine.turns, turns]
      obtain ⟨opposed, still⟩ := LockTable.acquire_of_asleep awake (Prod.ext rfl verdict)
      rw [last]
      refine ⟨trying_of_idle ?_ checked.catalog grows,
        .waits found does (turn_of_still found still) opposed checked⟩
      intro refusal cause
      apply turnRefused?_of_still _ still
      exact found

theorem Grounded.awake_of_granted (grounded : engine.Grounded)
    (found : engine.tasks[ticket]? = some task)
    (granted : (engine.database.pool.locks.acquire ticket task.request).2 = .granted) :
    (Progress.ofTask (engine.checked ticket task) task).1.pool.locks.sleepers[ticket]? = none := by
  have answers := grounded.answers found
  rw [Task.Makes.locks (grounded.works found (answers.granted granted)).path]
  cases sleeps : (engine.checked ticket task).pool.locks.sleepers[ticket]? with
  | none => rfl
  | some sleeper => cases granted.symm.trans (answers.asleep sleeper sleeps).1

theorem Grounded.undamaged (grounded : engine.Grounded)
    (found : engine.tasks[ticket]? = some task)
    (granted : (engine.database.pool.locks.acquire ticket task.request).2 = .granted)
    (own : ∀ file, task.file? = some file →
      ∃ table, engine.database.catalog.file table = .ok file)
    (unchanged : task.changes (Progress.ofTask (engine.checked ticket task) task).2 = []) :
    engine.database.Undamaged (Progress.ofTask (engine.checked ticket task) task).1 :=
  (engine.database.undamaged_acquire ticket task.request).trans
    ((grounded.works found ((grounded.answers found).granted granted)).undamaged
      (grounded.checked ticket task) own unchanged)

private theorem Grounded.undamaged_refused (grounded : engine.Grounded)
    (found : engine.tasks[ticket]? = some task)
    (granted : (engine.database.pool.locks.acquire ticket task.request).2 = .granted)
    (own : ∀ file, task.file? = some file →
      ∃ table, engine.database.catalog.file table = .ok file)
    {refusal : Refusal} {cause : DiskCause} {reached : Database} {outcome : Outcome}
    (refuses : Progress.ofTaskRefused? (engine.checked ticket task) refusal cause task =
      some (reached, outcome)) : engine.database.Undamaged reached :=
  (engine.database.undamaged_acquire ticket task.request).trans
    ((Progress.halts_ofTaskRefused? (grounded.checked ticket task)
      ((grounded.answers found).granted granted) refuses).undamaged
        (grounded.checked ticket task) own)

/-! ### From the beginning on -/

theorem turns_of_unused (unused : engine.tasks[ticket]? = none) (count : Nat) :
    engine.turns ticket count = (engine, none) := by
  cases count with
  | zero => rfl
  | succ count =>
      unfold Engine.turns
      rw [turn_of_unused unused]

/-- What an operation comes to that nothing comes between, as a whole, turn by turn, and if it is
refused before it asks for a lock. -/
structure Attempts (engine : Engine) (ticket : Nat) (operation : Operation) : Prop where
  ends : Attempt engine.database ticket operation (engine.submit ticket operation)
  grows : engine.database.GrowsFor (engine.submit ticket operation).1.database operation
  during : ∀ count, Trying engine.database ticket operation
    ((engine.begin ticket operation).1.turns ticket count).1
  refused : ∀ refusal cause next outcome,
    engine.beginRefused? ticket operation refusal cause = some (next, outcome) →
      Refused engine.database operation cause next outcome

/-- An operation that is refused before it asks for a lock has added part of a page at most. -/
private theorem Grounded.refused_begin (grounded : engine.Grounded) (edits : operation.Edits)
    {refusal : Refusal} {cause : DiskCause} {next : Engine} {outcome : Outcome}
    (refuses : engine.beginRefused? ticket operation refusal cause = some (next, outcome)) :
    Refused engine.database operation cause next outcome := by
  obtain ⟨reached, comes, rfl⟩ := Service.beginRefused?_eq_some refuses
  cases operation with
  | insert transaction table row =>
      unfold Progress.ofOperationRefused? at comes
      dsimp only at comes
      cases registered : engine.database.catalog.file table with
      | error fault =>
          rw [registered] at comes
          cases comes
      | ok file =>
          rw [registered] at comes
          obtain ⟨frays, fails⟩ := Progress.frays_insertRefused? comes
          refine ⟨fails, ?_, ?_⟩
          · rw [database_note]
            refine frays.undamaged grounded.steady ?_
            rintro own ⟨rfl⟩
            exact ⟨table, registered⟩
          · rw [database_note]
            cases frays with
            | none => exact (Database.growsFor_of_same rfl rfl).frays
            | part own written =>
                cases own
                exact Database.fraysFor_of_appended grounded.steady.catalog registered transaction
                  row rfl rfl
  | delete transaction row => cases comes
  | _ => exact edits.elim

private theorem Grounded.attempts_of_failed (grounded : engine.Grounded) (edits : operation.Edits)
    {fault : Fault} (begins : Progress.ofOperation engine.database operation =
      (engine.database, .finished (.failed fault))) : engine.Attempts ticket operation := by
  have same : engine.database.GrowsFor engine.database operation :=
    Database.growsFor_of_same rfl rfl
  refine ⟨?_, ?_, ?_, fun _ _ _ _ => grounded.refused_begin edits⟩
  · rw [submit_of_finished begins]
    exact .fails fault (.refl _)
  · rw [submit_of_finished begins]
    exact same
  · intro count
    have begun : (engine.begin ticket operation).1 =
        (engine.note ticket engine.database (.finished (.failed fault))).1 := by
      unfold Engine.begin
      rw [begins]
    have ended : (engine.begin ticket operation).1.tasks[ticket]? = none := by
      rw [begun, tasks_note, if_pos rfl]
      rfl
    rw [turns_of_unused ended, begun]
    exact trying_of_finished (.failed fault) rfl same

private theorem Grounded.attempts_of_waiting (grounded : engine.Grounded) (edits : operation.Edits)
    {begun : Database}
    (begins : Progress.ofOperation engine.database operation = (begun, .waiting task))
    (during : ∀ count, Trying engine.database ticket operation
      ((engine.note ticket begun (.waiting task)).1.turns ticket count).1)
    (ends : Attempt engine.database ticket operation
      ((engine.note ticket begun (.waiting task)).1.run ticket)) :
    engine.Attempts ticket operation := by
  refine ⟨?_, ?_, ?_, fun _ _ _ _ => grounded.refused_begin edits⟩
  · rw [submit_of_waiting begins]
    exact ends
  · rw [submit_of_waiting begins]
    exact (during _).grows
  · intro count
    unfold Engine.begin
    rw [begins]
    exact during count

/-! ### Insertions -/

inductive Tests (engine : Engine) (ticket : Nat) (insertion : Insertion) : Prop where
  | failed (next : Database) (fault : Fault)
      (comes : engine.turn ticket = engine.note ticket next (.finished (.failed fault)))
      (undamaged : engine.database.Undamaged next)
      (volume : next.volume = engine.database.volume)
  | onwards (loaded : Database) (content : Page)
      (comes : engine.turn ticket = engine.note ticket (insertion.skip loaded).1
        (.waiting (.inserting (insertion.skip loaded).2 .toPool)))
      (undamaged : engine.database.Undamaged (insertion.skip loaded).1)
      (awake : (insertion.skip loaded).1.pool.locks.sleepers[ticket]? = none)
      (volume : loaded.volume = engine.database.volume) (full : content.isFull = true)
      (origin : (∃ frame,
          engine.database.pool.residentFrame? insertion.page = some (frame, content)) ∨
        engine.database.diskPage? insertion.page = some content)
      (absent : ∀ other, other ≠ insertion.page →
        engine.database.pool.residentFrame? other = none →
          loaded.pool.residentFrame? other = none)
  | stored (next : Database) (row : Row) (page : PageId)
      (comes : engine.turn ticket = engine.note ticket next (.finished (.inserted row page)))
      (catalog : next.catalog = engine.database.catalog)
      (volume : next.volume = engine.database.volume)

theorem Grounded.tests (grounded : engine.Grounded) {insertion : Insertion} {table : TableId}
    (registered : engine.database.catalog.file table = .ok insertion.file)
    (found : engine.tasks[ticket]? = some (.inserting insertion .toPool))
    (granted : (engine.database.pool.locks.acquire ticket
      (Task.inserting insertion .toPool).request).2 = .granted) :
    engine.Tests ticket insertion := by
  let task : Task := .inserting insertion .toPool
  have own (file : TableFile) (mine : task.file? = some file) :
      ∃ table, engine.database.catalog.file table = .ok file := by
    cases mine
    exact ⟨table, registered⟩
  have comes : engine.turn ticket = engine.note ticket
      (Progress.insert (engine.checked ticket task) insertion .toPool).1
      (Progress.insert (engine.checked ticket task) insertion .toPool).2 :=
    turn_of_granted found (Prod.ext rfl granted)
  have awake : (Progress.insert (engine.checked ticket task) insertion
      .toPool).1.pool.locks.sleepers[ticket]? = none := grounded.awake_of_granted found granted
  have undamaged : task.changes
        (Progress.insert (engine.checked ticket task) insertion .toPool).2 = [] →
      engine.database.Undamaged
        (Progress.insert (engine.checked ticket task) insertion .toPool).1 :=
    grounded.undamaged found granted own
  have examines := (grounded.checked ticket task).examines insertion
  unfold Progress.insert at comes awake undamaged
  generalize insertion.tryPage (engine.checked ticket task) = trial
    at examines comes awake undamaged
  cases examines with
  | failed fault catalog volume => exact .failed _ fault comes (undamaged rfl) volume
  | full volume full origin absent =>
      exact .onwards _ _ comes (undamaged rfl) awake volume full origin absent
  | @stored loaded frame content changed row catalog volume sound resident id =>
      obtain ⟨handed, hands, kept, unmoved⟩ :=
        Database.handOver_setFrame sound resident id insertion.transaction .toPool
      dsimp only at comes
      rw [hands] at comes
      exact .stored handed row _ comes (kept.trans catalog) (unmoved.trans volume)

private theorem Grounded.trying_inserting (grounded : engine.Grounded)
    (undamaged : before.Undamaged engine.database) {transaction : TransactionId}
    {table : TableId} {row : Row} {insertion : Insertion} {left : Nat}
    (registered : before.catalog.file table = .ok insertion.file)
    (nears : before.Nears engine.database insertion left)
    (found : engine.tasks[ticket]? = some (.inserting insertion .toPool)) :
    Trying before ticket (.insert transaction table row) engine := by
  have sound := grounded.steady.catalog
  rw [undamaged.catalog] at sound
  refine ⟨undamaged.catalog,
    nears.growsFor sound registered transaction row undamaged.catalog rfl, ?_⟩
  intro refusal cause next outcome refuses
  obtain ⟨task, reached, foundAgain, granted, comes, rfl⟩ := Service.turnRefused?_eq_some refuses
  cases found.symm.trans foundAgain
  have own := registered
  rw [← undamaged.catalog] at own
  have unharmed := undamaged.trans (grounded.undamaged_refused found granted (fun file mine => by
    cases mine
    exact ⟨table, own⟩) comes)
  obtain ⟨fails, halted⟩ := (grounded.checked ticket _).halted comes
  refine ⟨fails, ?_, ?_⟩
  · rw [database_note]
    exact unharmed
  · rw [database_note]
    have halted : engine.database.Halted insertion reached := by
      cases halted with
      | kept volume => exact .kept volume
      | frayed written volume full origin => exact .frayed written volume full origin
    exact nears.fraysFor halted undamaged grounded.steady registered transaction row
      unharmed.catalog

/-- Turns of an insertion. It ends when there was one for each page that it has left to try. -/
theorem Grounded.turns_inserting (grounded : engine.Grounded) (stocked : before.Stocked)
    (undamaged : before.Undamaged engine.database) {transaction : TransactionId}
    {table : TableId} {row : Row} {insertion : Insertion} {left : Nat}
    (registered : before.catalog.file table = .ok insertion.file)
    (nears : before.Nears engine.database insertion left)
    (found : engine.tasks[ticket]? = some (.inserting insertion .toPool))
    (awake : engine.database.pool.locks.sleepers[ticket]? = none)
    (does : (Task.inserting insertion .toPool).Does (.insert transaction table row))
    (count : Nat) :
    Trying before ticket (.insert transaction table row) (engine.turns ticket count).1 ∧
      (left ≤ count →
        Attempt before ticket (.insert transaction table row) (engine.turns ticket count)) := by
  induction count generalizing engine insertion left with
  | zero =>
      refine ⟨grounded.trying_inserting undamaged registered nears found, ?_⟩
      intro none
      exact absurd nears.pos (Nat.not_lt.mpr none)
  | succ count ih =>
      obtain ⟨more, rfl⟩ := Nat.exists_eq_add_one_of_ne_zero (Nat.ne_of_gt nears.pos)
      have sound := grounded.steady.catalog
      rw [undamaged.catalog] at sound
      by_cases granted : (engine.database.pool.locks.acquire ticket
          (Task.inserting insertion .toPool).request).2 = .granted
      · have own := registered
        rw [← undamaged.catalog] at own
        have onwards : (engine.turn ticket).1.Grounded :=
          (@Grounded.serve engine grounded (.perform (.turn ticket)) trivial).2
        cases grounded.tests own found granted with
        | failed next fault comes harmless volume =>
            have unharmed := undamaged.trans harmless
            rw [turns_of_finished comes]
            exact ⟨trying_of_finished (.failed fault) unharmed.catalog
              (nears.growsFor sound registered transaction row unharmed.catalog volume),
                fun _ => .fails fault unharmed⟩
        | onwards loaded content comes harmless awakeThen volume full origin absent =>
            have carries := Insertion.carries_skip (Prod.eta (insertion.skip loaded)).symm
            have continues := Task.continues_inserting .toPool carries
            rw [turns_of_underWay comes]
            rw [comes] at onwards
            have nearsThen := nears.skip stocked undamaged grounded.steady registered volume full
              origin absent
            rw [← carries.file] at registered
            obtain ⟨trying, ends⟩ := ih onwards (undamaged.trans harmless) registered nearsThen
              (engine.tasks_note_waiting ticket _ _) awakeThen (does.continues continues)
            exact ⟨trying, fun enough => ends (Nat.le_of_succ_le_succ enough)⟩
        | stored next stored page comes catalog volume =>
            have same := catalog.trans undamaged.catalog
            rw [turns_of_finished comes]
            exact ⟨trying_of_finished (.inserted stored page) same
              (nears.growsFor sound registered transaction row same volume),
                fun _ => .succeeds rfl⟩
      · obtain ⟨trying, attempt⟩ := attempt_of_ungranted found awake undamaged does (fun _ => rfl)
          (nears.growsFor sound registered transaction row undamaged.catalog rfl) granted count
        exact ⟨trying, fun _ => attempt⟩

/-- An insertion begins at the first page of its table, or at one that it adds. -/
private theorem Grounded.attempts_insert (grounded : engine.Grounded)
    (stocked : engine.database.Stocked) (unused : engine.tasks[ticket]? = none)
    {transaction : TransactionId} {table : TableId} {row : Row}
    (edits : (Operation.insert transaction table row).Edits) :
    engine.Attempts ticket (.insert transaction table row) := by
  cases registered : engine.database.catalog.file table with
  | error fault =>
      apply grounded.attempts_of_failed edits
      unfold Progress.ofOperation Progress.insertTable
      dsimp only
      rw [registered]
  | ok file =>
      obtain rfl := (grounded.steady.catalog.file registered).1
      by_cases fits : row.schema = file.schema
      · have begins := Progress.ofOperation_insert registered fits transaction
        let insertion : Insertion := ⟨transaction, file, row, 0, 0⟩
        let begun := insertion.advance engine.database 0
        have carries : begun.2.Carries insertion := Insertion.carries_advance (Prod.eta begun).symm
        have does : (Task.inserting insertion .toPool).Does (.insert transaction file.id row) :=
          ⟨rfl, rfl, fun outcome => by cases outcome <;> rfl⟩
        have undamaged : engine.database.Undamaged begun.1 :=
          grounded.steady.undamaged_advance registered 0
        have counted := Database.pageCount_le_advance engine.database insertion 0
        have enough := pageCount_le_turnBound (engine.note ticket begun.1
          (.waiting (.inserting begun.2 .toPool))).1 ticket insertion.file
        have nears := Database.nears_start stocked grounded.steady.catalog registered
          (Nat.lt_of_le_of_lt counted (Nat.lt_of_succ_lt enough))
        have own : engine.database.catalog.file file.id = .ok begun.2.file :=
          registered.trans (congrArg Except.ok carries.file.symm)
        have awake : begun.1.pool.locks.sleepers[ticket]? = none := by
          rw [Insertion.pool_advance]
          exact grounded.awake_of_unused unused
        have turns := (@Grounded.begun _ _ (.insert transaction file.id row) _ grounded unused edits
          _ begins).turns_inserting stocked undamaged own nears
            (engine.tasks_note_waiting ticket _ _) awake
              (does.continues (Task.continues_inserting .toPool carries))
        exact grounded.attempts_of_waiting edits begins (fun count => (turns count).1)
          ((turns _).2 (Nat.le_refl _))
      · apply grounded.attempts_of_failed edits
        unfold Progress.ofOperation Progress.insertTable Progress.insertFile Insertion.start
        dsimp only
        rw [registered]
        dsimp only
        rw [if_neg fits]

/-! ### Deletions -/

private theorem delete_cases (database : Database) (transaction : TransactionId) (row : Row)
    (page : PageId) (handover : Handover) :
    ∃ next outcome, Progress.delete database transaction row page handover =
      (next, .finished outcome) ∧ (outcome.isChange = true ∨ ∃ fault, outcome = .failed fault) := by
  unfold Progress.delete
  dsimp only
  split
  · exact ⟨_, _, rfl, .inr ⟨_, rfl⟩⟩
  · split
    · exact ⟨_, _, rfl, .inr ⟨_, rfl⟩⟩
    · split
      · exact ⟨_, _, rfl, .inl rfl⟩
      · exact ⟨_, _, rfl, .inr ⟨_, rfl⟩⟩

private theorem disk_of_makes {task : Task} {progress : Progress} {database last : Database}
    (path : Path (task.Makes progress) database last) (unfiled : task.file? = none) :
    last.catalog = database.catalog ∧ last.volume = database.volume := by
  induction path with
  | here _ => exact ⟨rfl, rfl⟩
  | on moves makes _ ih =>
      cases makes with
      | grow own => cases unfiled.symm.trans own
      | _ =>
          cases moves
          exact ih

private theorem refused_deleting {database reached : Database} {refusal : Refusal}
    {cause : DiskCause} {transaction : TransactionId} {row : Row} {page : PageId}
    {handover : Handover} {outcome : Outcome}
    (refuses : Progress.ofTaskRefused? database refusal cause
      (.deleting transaction row page handover) = some (reached, outcome)) :
    outcome = .failed (.disk cause) ∧ reached.volume = database.volume := by
  unfold Progress.ofTaskRefused? Progress.loadRefused? at refuses
  cases refusal with
  | reading =>
      dsimp only at refuses
      split at refuses
      · cases refuses
        exact ⟨rfl, rfl⟩
      · cases refuses
  | _ =>
      dsimp only at refuses
      split at refuses <;> cases refuses

private theorem Grounded.turns_deleting (grounded : engine.Grounded)
    (undamaged : before.Undamaged engine.database)
    (volume : engine.database.volume = before.volume) {transaction : TransactionId} {row : Row}
    {page : PageId}
    (found : engine.tasks[ticket]? = some (.deleting transaction row page .toPool))
    (awake : engine.database.pool.locks.sleepers[ticket]? = none)
    (does : (Task.deleting transaction row page .toPool).Does operation) (count : Nat) :
    Trying before ticket operation (engine.turns ticket count).1 ∧
      (0 < count → Attempt before ticket operation (engine.turns ticket count)) := by
  let task : Task := .deleting transaction row page .toPool
  cases count with
  | zero =>
      refine ⟨⟨undamaged.catalog, Database.growsFor_of_same undamaged.catalog volume, ?_⟩, nofun⟩
      intro refusal cause next outcome refuses
      obtain ⟨task, reached, foundAgain, granted, comes, rfl⟩ :=
        Service.turnRefused?_eq_some refuses
      cases found.symm.trans foundAgain
      have unharmed := undamaged.trans (grounded.undamaged_refused found granted nofun comes)
      obtain ⟨fails, same⟩ := refused_deleting comes
      refine ⟨fails, ?_, ?_⟩
      · rw [database_note]
        exact unharmed
      · rw [database_note]
        exact (Database.growsFor_of_same unharmed.catalog (same.trans volume)).frays
  | succ bound =>
      by_cases granted : (engine.database.pool.locks.acquire ticket task.request).2 = .granted
      · have comes : engine.turn ticket = engine.note ticket
            (Progress.delete (engine.checked ticket task) transaction row page .toPool).1
            (Progress.delete (engine.checked ticket task) transaction row page .toPool).2 :=
          turn_of_granted found (Prod.ext rfl granted)
        have harmless : task.changes
              (Progress.delete (engine.checked ticket task) transaction row page .toPool).2 = [] →
            engine.database.Undamaged
              (Progress.delete (engine.checked ticket task) transaction row page .toPool).1 :=
          grounded.undamaged found granted nofun
        have kept := disk_of_makes
          (grounded.works found ((grounded.answers found).granted granted)).path rfl
        change (Progress.delete (engine.checked ticket task) transaction row page
          .toPool).1.catalog = _ ∧ (Progress.delete (engine.checked ticket task) transaction row
            page .toPool).1.volume = _ at kept
        obtain ⟨next, outcome, deletes, ending⟩ :=
          delete_cases (engine.checked ticket task) transaction row page .toPool
        rw [deletes] at comes harmless kept
        have catalog := kept.1.trans undamaged.catalog
        rw [turns_of_finished comes]
        refine ⟨trying_of_finished outcome catalog
          (Database.growsFor_of_same catalog (kept.2.trans volume)), fun _ => ?_⟩
        rcases ending with changes | ⟨fault, rfl⟩
        · exact .succeeds changes
        · exact .fails fault (undamaged.trans (harmless rfl))
      · obtain ⟨trying, attempt⟩ := attempt_of_ungranted found awake undamaged does (fun _ => rfl)
          (Database.growsFor_of_same undamaged.catalog volume) granted bound
        exact ⟨trying, fun _ => attempt⟩

private theorem ofOperation_delete (database : Database) (transaction : TransactionId)
    (row : Row) :
    (∃ fault, Progress.ofOperation database (.delete transaction row) =
      (database, .finished (.failed fault))) ∨
    ∃ record, row.record = some record ∧
      Progress.ofOperation database (.delete transaction row) =
        (database, .waiting (.deleting transaction row record.page .toPool)) := by
  unfold Progress.ofOperation Progress.deleteTable Progress.deleteFile
  dsimp only
  cases recorded : row.record with
  | none => exact .inl ⟨_, rfl⟩
  | some record =>
      dsimp only
      cases database.catalog.file record.page.table with
      | error fault => exact .inl ⟨_, rfl⟩
      | ok file =>
          dsimp only
          split
          · exact .inr ⟨record, rfl, rfl⟩
          · exact .inl ⟨_, rfl⟩

private theorem Grounded.attempts_delete (grounded : engine.Grounded)
    (unused : engine.tasks[ticket]? = none) (transaction : TransactionId) (row : Row) :
    engine.Attempts ticket (.delete transaction row) := by
  rcases ofOperation_delete engine.database transaction row with
    ⟨fault, begins⟩ | ⟨record, recorded, begins⟩
  · exact grounded.attempts_of_failed trivial begins
  · have does : (Task.deleting transaction row record.page .toPool).Does
        (.delete transaction row) := by
      refine ⟨rfl, ?_, fun outcome => by cases outcome <;> rfl⟩
      unfold Operation.table?
      dsimp only
      rw [recorded]
      rfl
    have found := engine.tasks_note_waiting ticket engine.database
      (.deleting transaction row record.page .toPool)
    have turns := (@Grounded.begun _ _ (.delete transaction row) _ grounded unused trivial
      _ begins).turns_deleting (.refl _) rfl found (grounded.awake_of_unused unused) does
    obtain ⟨bound, enough⟩ := exists_turnBound_eq_succ (engine.note ticket engine.database
      (.waiting (.deleting transaction row record.page .toPool))).1 ticket
    refine grounded.attempts_of_waiting trivial begins (fun count => (turns count).1)
      ((turns _).2 ?_)
    rw [enough]
    exact Nat.succ_pos bound

theorem Grounded.attempts (grounded : engine.Grounded) (stocked : engine.database.Stocked)
    (unused : engine.tasks[ticket]? = none) (edits : operation.Edits) :
    engine.Attempts ticket operation := by
  cases operation with
  | insert transaction table row => exact grounded.attempts_insert stocked unused edits
  | delete transaction row => exact grounded.attempts_delete unused transaction row
  | _ => exact edits.elim

theorem Grounded.turns (grounded : engine.Grounded) (ticket count : Nat) :
    (engine.turns ticket count).1.Grounded := by
  induction count generalizing engine with
  | zero => exact grounded
  | succ count ih =>
      have onwards : (engine.turn ticket).1.Grounded :=
        (@Grounded.serve engine grounded (.perform (.turn ticket)) trivial).2
      rcases turned : engine.turn ticket with ⟨next, turn⟩
      rw [turned] at onwards
      cases turn with
      | asleep =>
          rw [Engine.turns, turned]
          exact onwards
      | underWay =>
          rw [turns_of_underWay turned]
          exact ih onwards
      | finished outcome =>
          rw [turns_of_finished turned]
          exact onwards

end

end Engine

namespace Service

/-! ### Histories in which the tables stay -/

/-- The catalog stays as it is, and no table loses its pages. -/
structure Conserves (service : Service) (action : ServiceAction) : Prop where
  proper : service.Proper action
  fixed : action.recatalogues = false
  spares : ∀ plain ∈ action.plain?, service.engine.empties plain = false

instance (service : Service) (action : ServiceAction) : Decidable (service.Conserves action) :=
  decidable_of_iff (service.Proper action ∧ action.recatalogues = false ∧
    ∀ plain ∈ action.plain?, service.engine.empties plain = false)
    ⟨fun all => ⟨all.1, all.2.1, all.2.2⟩,
      fun conserves => ⟨conserves.proper, conserves.fixed, conserves.spares⟩⟩

section

variable {service : Service} {action : ServiceAction}

theorem Grounded.stocked (grounded : service.Grounded) (conserves : service.Conserves action)
    (stocked : service.database.Stocked) : (service.serve action).database.Stocked := by
  apply grounded.serve_keeps conserves.proper Database.Stocked ?_ stocked
  intro current next stride steady within stocked makes strides
  apply strides.stocked steady stocked
  · rw [strides.catalog]
    split
    · cases makes.recatalogues.symm.trans conserves.fixed
    · rfl
  · rintro table file registered rfl
    cases makes with
    | plain same makes _ =>
        have spares := conserves.spares _ same
        rw [within.catalog_eq conserves.fixed] at registered
        change service.engine.database.catalog.file table = .ok file at registered
        unfold Engine.empties at spares
        rw [makes.opens] at spares
        dsimp only at spares
        rw [(grounded.engine.steady.catalog.file registered).2, registered] at spares
        simp at spares

theorem stocked_new {start : Database} (setUp : start.SetUp) : (new start).database.Stocked := by
  obtain ⟨capacity, preference, pool⟩ := setUp.pool
  intro page frame content found
  simp [new, database, Engine.new, pool, Pool.new, Pool.residentFrame?] at found

theorem conserved_each {start : Database} (setUp : start.SetUp) {actions : List ServiceAction}
    (conserved : (new start).Along Conserves actions) :
    ((new start).serveEach actions).Grounded ∧
      ((new start).serveEach actions).database.Stocked := by
  refine conserved.keeps (fun service => service.Grounded ∧ service.database.Stocked) ?_
    ⟨grounded_new setUp, stocked_new setUp⟩
  rintro service action ⟨grounded, stocked⟩ conserves
  exact ⟨(grounded.serve conserves.proper).2, grounded.stocked conserves stocked⟩

end

/-- Whatever was asked before, as long as no table was registered, forgotten or made anew, and no
table has more pages than can be counted: an insertion or a deletion that nothing comes between ends,
or comes to wait for a page that another transaction holds. An insertion adds at most one page, of
zeros. If the operation fails, or while it waits, no page with changes is different or has left the
pool, every other page in the pool is as it was, or clean and as it is on the disk, the disk has
every page that it had, and all locks are held. This is so, too, if the disk refuses something at any
moment, when the page of zeros may have been added in part. A page that was changed is always taken
over. -/
theorem failed_edit_changes_nothing {start : Database} (setUp : start.SetUp)
    {actions : List ServiceAction} (conserved : (new start).Along Conserves actions)
    {service : Service} (reached : (new start).serveEach actions = service)
    (countable : service.database.Countable) {ticket : Nat}
    (unused : service.engine.tasks[ticket]? = none) {operation : Operation}
    (edits : operation.Edits) :
    service.engine.Attempts ticket operation ∧ service.database.CountsTold ∧
      ∀ count, let during := ((service.engine.begin ticket operation).1.turns ticket count).1
        during.database.CountsTold ∧ ∀ task, (during.checked ticket task).HandsOver task := by
  obtain ⟨grounded, stocked⟩ := conserved_each setUp conserved
  rw [reached] at grounded stocked
  have attempts := grounded.engine.attempts stocked unused edits
  have sound := grounded.engine.steady.catalog
  have untouched : service.database.GrowsFor service.database operation :=
    Database.growsFor_of_same rfl rfl
  refine ⟨attempts, untouched.countsTold sound rfl countable, fun count => ?_⟩
  have trying := attempts.during count
  have begun : (service.engine.begin ticket operation).1.Grounded :=
    (@Engine.Grounded.serve service.engine grounded.engine (.perform (.begin ticket operation))
      ⟨unused, edits.plain⟩).2
  exact ⟨trying.grows.countsTold sound trying.catalog countable,
    fun task => ((begun.turns ticket count).checked ticket task).handsOver task⟩

/-- The first page of a table is full, and the pool has no room for a second one beside it and a
page that another transaction changed. The row is not stored, the table has one more page, and the
changed page is as it was. If the disk gives up while that page is added, the file has part of it. -/
theorem failed_edit_changes_nothing_crowded :
    let start : Database := (((Samples.bare 2 (fun path => if path = "full" then ⟨0⟩ else ⟨1⟩)
      (Volume.empty.write "full" Samples.fullPage)).openTable "full" Samples.numbers
        "full").1.createTable "other" Samples.numbers "other").1
    let file : TableFile := ⟨⟨0⟩, "full", Samples.numbers, 16⟩
    let row : Row := Samples.row 8
    let actions : List ServiceAction := [.serve (.perform (.begin 1 (.insert ⟨1⟩ ⟨1⟩ row))),
      .serve (.perform (.turn 1))]
    let service := (new start).serveEach actions
    let insert : Operation := .insert ⟨2⟩ ⟨0⟩ row
    let result := service.engine.submit 2 insert
    start.SetUp ∧ (new start).Along Conserves actions ∧ service.database.Countable ∧
      service.engine.tasks[2]? = none ∧ insert.Edits ∧ service.engine.Attempts 2 insert ∧
      result.2 = some (.failed (.poolExhausted 2)) ∧
      file.pageCount service.database.volume = 1 ∧ file.pageCount result.1.database.volume = 2 ∧
      (∃ frame content, result.1.database.pool.residentFrame? ⟨⟨1⟩, 0⟩ = some (frame, content) ∧
        content.owner = some ⟨1⟩) ∧
      ((service.engine.begin 2 insert).1.turnRefused? 2 (.adding 5) .missing).map
        (fun answer => (answer.2, (answer.1.database.volume.bytes "full").length)) =
          some (.failed (.disk .missing), 21) := by
  intro start file row actions service insert result
  have setUp : start.SetUp :=
    ((Samples.setUp_bare (by decide) _ _).openTable _ _ _).createTable _ _ _
  have conserved : (new start).Along Conserves actions := by decide +kernel
  have countable : service.database.Countable := by decide +kernel
  have unused : service.engine.tasks[2]? = none := by decide +kernel
  have edits : insert.Edits := by decide +kernel
  have fails : result.2 = some (.failed (.poolExhausted 2)) := by decide +kernel
  have stored : service.engine.database.pool.residentFrame? ⟨⟨1⟩, 0⟩ = some (0, ⟨⟨⟨1⟩, 0⟩,
      Samples.numbers, 16, [1], [some (row.storedAt ⟨⟨⟨1⟩, 0⟩, 0⟩), none, none],
        some ⟨1⟩⟩) := by decide +kernel
  obtain ⟨attempts, _⟩ :=
    failed_edit_changes_nothing setUp conserved rfl countable unused edits
  have undamaged : service.engine.database.Undamaged result.1.database := by
    have ends : Engine.Attempt service.engine.database 2 insert result := attempts.ends
    generalize result = ended at ends fails
    cases ends with
    | succeeds changes =>
        cases fails
        cases changes
    | fails _ undamaged => exact undamaged
    | waits _ _ _ _ _ => cases fails
  have before : file.pageCount service.database.volume = 1 := by decide +kernel
  have after : file.pageCount result.1.database.volume = 2 := by decide +kernel
  have torn : ((service.engine.begin 2 insert).1.turnRefused? 2 (.adding 5) .missing).map
      (fun answer => (answer.2, (answer.1.database.volume.bytes "full").length)) =
        some (.failed (.disk .missing), 21) := by decide +kernel
  exact ⟨setUp, conserved, countable, unused, edits, attempts, fails, before, after,
    ⟨0, _, undamaged.dirty _ _ _ stored rfl, rfl⟩, torn⟩

/-- However many turns an insertion takes, it does not end while another transaction has its page
and nothing else happens. And in the file of a table that was made anew, an insertion that finds a
full page in the pool adds two pages. -/
theorem insertion_waits_or_grows_twice :
    let start : Database := Samples.stored 2 Samples.fullPage
    let file : TableFile := Samples.rows
    let row : Row := Samples.row 8
    let turn (ticket : Nat) : ServiceAction := .serve (.perform (.turn ticket))
    let holding : List ServiceAction :=
      [.serve (.perform (.begin 1 (.fetch ⟨1⟩ (file.pageId 0) .write))), turn 1]
    let ending (transaction : TransactionId) : List ServiceAction :=
      [.call 0 (.abort transaction), .step 0, .step 0, .step 0]
    let emptied : List ServiceAction := holding ++ ending ⟨1⟩ ++
      [.serve (.perform (.begin 2 (.fetch ⟨2⟩ (file.pageId 0) .read))), turn 2,
        .serve (.openFile "rows" .truncating Samples.numbers 16)] ++ ending ⟨2⟩
    let insert : Operation := .insert ⟨3⟩ ⟨0⟩ row
    let service := (new start).serveEach holding
    let waiting := service.engine.submit 3 insert
    let before := (new start).serveEach emptied
    let grown := before.engine.submit 3 insert
    start.SetUp ∧ (new start).Along Conserves holding ∧ service.engine.tasks[3]? = none ∧
      insert.Edits ∧ waiting.2 = none ∧
      (∀ count,
        (waiting.1.serveEach (List.replicate count (.perform (.turn 3)))).tasks[3]? ≠ none) ∧
      (new start).Along Proper emptied ∧ (∀ action ∈ emptied, action.recatalogues = false) ∧
      file.pageCount before.database.volume = 0 ∧
      grown.2 = some (.inserted (row.storedAt ⟨file.pageId 1, 0⟩) (file.pageId 1)) ∧
      file.pageCount grown.1.database.volume = 2 := by
  intro start file row turn holding ending emptied insert service waiting before grown
  have setUp : start.SetUp := Samples.setUp_stored (by decide) _
  have conserved : (new start).Along Conserves holding := by decide +kernel
  have unused : service.engine.tasks[3]? = none := by decide +kernel
  have edits : insert.Edits := by decide +kernel
  have waits : waiting.2 = none := by decide +kernel
  have never (count : Nat) :
      (waiting.1.serveEach (List.replicate count (.perform (.turn 3)))).tasks[3]? ≠ none := by
    obtain ⟨grounded, stocked⟩ := conserved_each setUp conserved
    have ends : Engine.Attempt service.engine.database 3 insert waiting :=
      (grounded.engine.attempts stocked unused edits).ends
    generalize waiting = ended at ends waits
    cases ends with
    | succeeds _ => cases waits
    | fails _ _ => cases waits
    | @waits after task found _ still _ _ =>
        have same : after.serveEach (List.replicate count (.perform (.turn 3))) = after := by
          induction count with
          | zero => rfl
          | succ count ih =>
              change (after.turn 3).1.serveEach _ = after
              rw [still]
              exact ih
        rw [same, found]
        nofun
  have proper : (new start).Along Proper emptied := by decide +kernel
  have fixed : ∀ action ∈ emptied, action.recatalogues = false := by decide +kernel
  have empty : file.pageCount before.database.volume = 0 := by decide +kernel
  have stored : grown.2 =
      some (.inserted (row.storedAt ⟨file.pageId 1, 0⟩) (file.pageId 1)) := by decide +kernel
  have twice : file.pageCount grown.1.database.volume = 2 := by decide +kernel
  exact ⟨setUp, conserved, unused, edits, waits, never, proper, fixed, empty, stored, twice⟩

end Service

end RowStore
