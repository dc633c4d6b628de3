import RowStore.Service

/-!
Whole chores: the steps of a chore, with nothing between them, come to what the chore does when it
is done in one go.
-/

set_option autoImplicit false

namespace RowStore

theorem Database.flushPage_eq (database : Database) (page : PageId) :
    database.flushPage page =
      match database.pool.resident[page]? with
      | none => .ok database
      | some frame => database.writeFrame page frame := by
  unfold flushPage writeFrame Pool.residentFrame?
  cases database.pool.resident[page]? with
  | none => rfl
  | some frame =>
      dsimp only [bind, Option.bind]
      cases database.pool.frames[frame]? <;> rfl

namespace Service

/-- The chore under the ticket takes its steps, one right after another, up to its end. -/
inductive Runs (ticket : Nat) : Service → Service × Except Fault Unit → Prop where
  | last {service next : Service} {result : Except Fault Unit}
      (ends : service.step ticket = (next, some result)) : Runs ticket service (next, result)
  | on {service next : Service} {ended : Service × Except Fault Unit}
      (goesOn : service.step ticket = (next, none)) (rest : Runs ticket next ended) :
      Runs ticket service ended

/-- The chore under the ticket has come to a stage, and the database to this. -/
def atStage (service : Service) (ticket : Nat) (database : Database) (stage : Stage) : Service :=
  { engine := service.engine.setDatabase database
    chores := service.chores.insert ticket stage }

/-- No chore is under the ticket any more, and the database has come to this. -/
def without (service : Service) (ticket : Nat) (database : Database) : Service :=
  { engine := service.engine.setDatabase database
    chores := service.chores.erase ticket }

section

variable {service : Service} {ticket : Nat} {database : Database}
  {ended : Service × Except Fault Unit}

private theorem insert_insert (chores : Std.ExtTreeMap Nat Stage) (ticket : Nat)
    (before stage : Stage) :
    (chores.insert ticket before).insert ticket stage = chores.insert ticket stage := by
  apply Std.ExtTreeMap.ext_getElem?
  intro other
  simp only [Std.ExtTreeMap.getElem?_insert]
  split <;> rfl

private theorem erase_insert (chores : Std.ExtTreeMap Nat Stage) (ticket : Nat)
    (before : Stage) : (chores.insert ticket before).erase ticket = chores.erase ticket := by
  apply Std.ExtTreeMap.ext_getElem?
  intro other
  simp only [Std.ExtTreeMap.getElem?_erase, Std.ExtTreeMap.getElem?_insert]
  split <;> rfl

private theorem step_atStage {stage : Stage} {next : Database} {headway : Headway}
    (advances : stage.advance database = (next, headway)) :
    (service.atStage ticket database stage).step ticket = service.note ticket next headway := by
  have under : (service.chores.insert ticket stage)[ticket]? = some stage :=
    Std.ExtTreeMap.getElem?_insert_self
  unfold step atStage
  dsimp only
  rw [under]
  unfold Service.database
  dsimp only [Engine.setDatabase]
  rw [advances]
  cases headway with
  | onwards rest =>
      dsimp only [note]
      rw [insert_insert]
      rfl
  | finished result =>
      dsimp only [note]
      rw [erase_insert]
      rfl

private theorem Runs.onwards {stage rest : Stage} {next : Database}
    (advances : stage.advance database = (next, .onwards rest))
    (runs : Runs ticket (service.atStage ticket next rest) ended) :
    Runs ticket (service.atStage ticket database stage) ended :=
  .on (step_atStage advances) runs

private theorem runs_finished {stage : Stage} {next : Database} {result : Except Fault Unit}
    (advances : stage.advance database = (next, .finished result)) :
    Runs ticket (service.atStage ticket database stage) (service.without ticket next, result) :=
  .last (step_atStage advances)

/-- A page is written back in two steps, or in one if it is not in the pool. -/
private theorem Runs.visit {page : PageId} {rest : List PageId} {purpose : Purpose}
    {flushed : Database} (flushes : database.flushPage page = .ok flushed)
    (runs : Runs ticket (service.atStage ticket flushed (.visiting rest purpose)) ended) :
    Runs ticket (service.atStage ticket database (.visiting (page :: rest) purpose)) ended := by
  rw [Database.flushPage_eq] at flushes
  cases resident : database.pool.resident[page]? with
  | none =>
      rw [resident] at flushes
      cases flushes
      have skips : Stage.advance database (.visiting (page :: rest) purpose) =
          (database, .onwards (.visiting rest purpose)) := by
        unfold Stage.advance
        dsimp only
        rw [resident]
      exact .onwards skips runs
  | some frame =>
      rw [resident] at flushes
      have finds : Stage.advance database (.visiting (page :: rest) purpose) =
          (database, .onwards (.writing page frame rest purpose)) := by
        unfold Stage.advance
        dsimp only
        rw [resident]
      have writes : Stage.advance database (.writing page frame rest purpose) =
          (flushed, .onwards (.visiting rest purpose)) := by
        unfold Stage.advance
        dsimp only at flushes ⊢
        rw [flushes]
      exact .onwards finds (.onwards writes runs)

private theorem runs_failed {page : PageId} {fault : Fault} (rest : List PageId)
    (purpose : Purpose) (fails : database.flushPage page = .error fault) :
    Runs ticket (service.atStage ticket database (.visiting (page :: rest) purpose))
      (service.without ticket database, .error fault) := by
  rw [Database.flushPage_eq] at fails
  cases resident : database.pool.resident[page]? with
  | none =>
      rw [resident] at fails
      cases fails
  | some frame =>
      rw [resident] at fails
      have finds : Stage.advance database (.visiting (page :: rest) purpose) =
          (database, .onwards (.writing page frame rest purpose)) := by
        unfold Stage.advance
        dsimp only
        rw [resident]
      have writes : Stage.advance database (.writing page frame rest purpose) =
          (database, .finished (.error fault)) := by
        unfold Stage.advance
        dsimp only at fails ⊢
        rw [fails]
      exact .onwards finds (runs_finished writes)

private theorem runs_visiting (pages : List PageId) (purpose : Purpose)
    (concludes : ∀ flushed, database.flushEach pages = (flushed, .ok ()) →
      Runs ticket (service.atStage ticket flushed (.visiting [] purpose)) ended)
    (fails : ∀ flushed fault, database.flushEach pages = (flushed, .error fault) →
      ended = (service.without ticket flushed, .error fault)) :
    Runs ticket (service.atStage ticket database (.visiting pages purpose)) ended := by
  induction pages generalizing database with
  | nil => exact concludes database rfl
  | cons page rest ih =>
      unfold Database.flushEach at concludes fails
      cases flushes : database.flushPage page with
      | ok flushed =>
          rw [flushes] at concludes fails
          exact .visit flushes (ih concludes fails)
      | error fault =>
          rw [flushes] at concludes fails
          rw [fails database fault rfl]
          exact runs_failed rest purpose flushes

private theorem runs_complete (transaction : TransactionId) (pages : List PageId)
    (same : pages = database.pool.writtenBy transaction) :
    Runs ticket (service.atStage ticket database (.visiting [] (.complete transaction pages)))
      (service.without ticket (database.dismiss transaction), .ok ()) := by
  subst same
  have drops : Stage.advance database
      (.visiting [] (.complete transaction (database.pool.writtenBy transaction))) =
        ({ database with
            pool := database.pool.discardEach (database.pool.writtenBy transaction) },
          .onwards (.forgetting transaction)) := rfl
  exact .onwards drops (.onwards rfl (runs_finished rfl))

private theorem written_flushEach {pages : List PageId} {flushed : Database}
    {result : Except Fault Unit} (flushes : database.flushEach pages = (flushed, result)) :
    flushed.pool.written = database.pool.written := by
  induction pages generalizing database with
  | nil =>
      cases flushes
      rfl
  | cons page rest ih =>
      unfold Database.flushEach at flushes
      cases first : database.flushPage page with
      | ok middle =>
          rw [first] at flushes
          refine (ih flushes).trans ?_
          unfold Database.flushPage at first
          split at first
          · cases first
            rfl
          · split at first
            · cases registered : database.catalog.file page.table with
              | error fault =>
                  rw [registered] at first
                  cases first
              | ok file =>
                  rw [registered] at first
                  dsimp only [bind, Except.bind, Database.writePage] at first
                  split at first
                  · cases first
                  · rename_i writes
                    cases first
                    split at writes
                    · cases writes
                    · cases writes
                      rfl
            · cases first
              rfl
      | error fault =>
          rw [first] at flushes
          cases flushes
          rfl

/-- A chore that nothing comes between does what it does when it is done in one go. -/
theorem runs_whole (service : Service) (ticket : Nat) (chore : Chore) :
    Runs ticket (service.call ticket chore)
      (service.without ticket (chore.whole service.database).1,
        (chore.whole service.database).2) := by
  change Runs ticket (service.atStage ticket service.database (chore.stage service.database)) _
  cases chore with
  | flushPage page =>
      refine runs_visiting [page] .write ?_ ?_
      · intro flushed flushes
        change Runs ticket _ (service.without ticket (service.database.flushEach [page]).1,
          (service.database.flushEach [page]).2)
        rw [flushes]
        exact runs_finished rfl
      · intro flushed fault flushes
        change (service.without ticket (service.database.flushEach [page]).1,
          (service.database.flushEach [page]).2) = _
        rw [flushes]
  | flushTransaction transaction =>
      refine runs_visiting _ .write ?_ ?_
      · intro flushed flushes
        unfold Chore.whole Database.flushTransaction
        dsimp only
        rw [flushes]
        exact runs_finished rfl
      · intro flushed fault flushes
        unfold Chore.whole Database.flushTransaction
        dsimp only
        rw [flushes]
  | flushAll order =>
      refine runs_visiting order .clear ?_ ?_
      · intro flushed flushes
        unfold Chore.whole
        dsimp only
        rw [flushes]
        exact runs_finished rfl
      · intro flushed fault flushes
        unfold Chore.whole
        dsimp only
        rw [flushes]
  | commit transaction =>
      refine runs_visiting _ (.complete transaction _) ?_ ?_
      · intro flushed flushes
        have same : service.database.pool.writtenBy transaction =
            flushed.pool.writtenBy transaction := by
          unfold Pool.writtenBy
          rw [written_flushEach flushes]
        unfold Chore.whole Database.commit Database.flushTransaction
        dsimp only
        rw [flushes]
        exact runs_complete transaction _ same
      · intro flushed fault flushes
        unfold Chore.whole Database.commit Database.flushTransaction
        dsimp only
        rw [flushes]
  | abort transaction => exact runs_complete transaction _ rfl

end

end Service

end RowStore
