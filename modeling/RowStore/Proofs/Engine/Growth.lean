import RowStore.Proofs.Engine.Completion

/-!
Growth: tables never lose a page, and an insertion under way only comes to pages that its table has.
-/

set_option autoImplicit false

namespace RowStore

namespace Database

theorem volume_load {database loaded : Database} {page : PageId} {frame : Nat} {content : Page}
    (loads : database.load page = .ok (loaded, frame, content)) :
    loaded.volume = database.volume := by
  unfold load at loads
  split at loads
  · cases loads
    rfl
  · cases registered : database.catalog.file page.table with
    | error fault =>
        rw [registered] at loads
        cases loads
    | ok file =>
        rw [registered] at loads
        simp only [bind, Except.bind] at loads
        split at loads
        · cases loads
        · split at loads
          · cases loads
          · cases loads
            rfl

end Database

/-! ### Insertions in range -/

/-- The insertion is at a page that it counted, and the table has as many pages as it counted. -/
structure Insertion.InRange (insertion : Insertion) (volume : Volume) : Prop where
  inside : insertion.nextPage < insertion.limit
  counted : insertion.limit ≤ insertion.file.pageCount volume

namespace Insertion

variable {database next : Database} {insertion rest : Insertion}

theorem InRange.mono {volume grown : Volume} (inRange : insertion.InRange volume)
    (grows : insertion.file.pageCount volume ≤ insertion.file.pageCount grown) :
    insertion.InRange grown :=
  ⟨inRange.inside, Nat.le_trans inRange.counted grows⟩

theorem inRange_advance (sized : 0 < insertion.file.pageSize) {tried : Nat}
    (advances : insertion.advance database tried = (next, rest)) : rest.InRange next.volume := by
  unfold Insertion.advance at advances
  dsimp only at advances
  split at advances
  · rename_i more
    cases advances
    exact ⟨more, Nat.le_refl _⟩
  · cases advances
    refine ⟨Nat.lt_succ_self _, ?_⟩
    change _ ≤ insertion.file.pageCount (insertion.file.appendEmptyPage database.volume).1
    rw [TableFile.pageCount_appendEmptyPage sized]
    exact Nat.le_refl _

theorem InRange.skip (inRange : insertion.InRange database.volume)
    (sized : 0 < insertion.file.pageSize) (skips : insertion.skip database = (next, rest)) :
    rest.InRange next.volume := by
  unfold Insertion.skip at skips
  split at skips
  · rename_i more
    cases skips
    exact ⟨more, inRange.counted⟩
  · exact inRange_advance sized skips

theorem nextPage_advance_zero (advances : insertion.advance database 0 = (next, rest)) :
    rest.nextPage = 0 := by
  unfold Insertion.advance at advances
  dsimp only at advances
  split at advances
  · cases advances
    rfl
  · rename_i none
    cases advances
    exact Nat.eq_zero_of_not_pos none

end Insertion

/-! ### Insertions that go on -/

namespace Progress

variable {database next : Database} {rest : Insertion} {handover : Handover}

theorem inserting_ofOperation {operation : Operation} (transactional : operation.Transactional)
    (begins : ofOperation database operation = (next, .waiting (.inserting rest handover))) :
    ∃ transaction file row,
      Insertion.advance database ⟨transaction, file, row, 0, 0⟩ 0 = (next, rest) := by
  cases operation with
  | fetch transaction page access => cases begins
  | insert transaction table row =>
      unfold ofOperation insertTable insertFile Insertion.start at begins
      dsimp only at begins
      split at begins
      · rename_i file _
        by_cases same : row.schema = file.schema
        · rw [if_pos same] at begins
          cases begins
          exact ⟨transaction, file, row, rfl⟩
        · rw [if_neg same] at begins
          cases begins
      · cases begins
  | delete transaction row =>
      unfold ofOperation deleteTable deleteFile at begins
      dsimp only at begins
      split at begins
      · cases begins
      · split at begins
        · cases begins
        · split at begins
          · cases begins
          · split at begins
            · cases begins
            · cases begins
  | scan scan count =>
      unfold ofOperation at begins
      dsimp only at begins
      obtain ⟨_, _, _, _, ⟨_, finishes, _⟩ | ⟨_, _, waits⟩⟩ :=
        Database.scanNext_cases database scan count []
      · rw [finishes] at begins
        cases begins
      · rw [waits] at begins
        cases begins
  | lock request => cases transactional
  | insertInto transaction own row => cases transactional
  | fill transaction table row copies => cases transactional
  | deleteFrom transaction own row => cases transactional

theorem inserting_ofTask {catalog : Catalog} {task : Task} (proper : task.Proper catalog)
    (goes : ofTask database task = (next, .waiting (.inserting rest handover))) :
    ∃ insertion loaded, task = .inserting insertion handover ∧
      loaded.volume = database.volume ∧ insertion.skip loaded = (next, rest) := by
  cases task with
  | fetching transaction page access =>
      unfold ofTask fetch at goes
      dsimp only at goes
      split at goes <;> cases goes
  | inserting insertion ownHandover =>
      unfold ofTask insert Insertion.tryPage at goes
      dsimp only at goes
      cases loads : (database.noteAccess insertion.transaction insertion.page .write).load
          insertion.page with
      | error fault =>
          rw [loads] at goes
          cases goes
      | ok found =>
          obtain ⟨loaded, frame, content⟩ := found
          have volume : loaded.volume = database.volume := (Database.volume_load loads).trans rfl
          rw [loads] at goes
          dsimp only at goes
          cases full : content.isFull with
          | true =>
              rw [full, if_pos rfl] at goes
              cases goes
              exact ⟨insertion, loaded, rfl, volume, rfl⟩
          | false =>
              rw [full, if_neg Bool.false_ne_true] at goes
              cases inserts : content.insert insertion.row with
              | error fault =>
                  rw [inserts] at goes
                  cases goes
              | ok answer =>
                  rw [inserts] at goes
                  dsimp only at goes
                  split at goes <;> cases goes
  | deleting transaction row page handover =>
      unfold ofTask delete at goes
      dsimp only at goes
      split at goes
      · cases goes
      · split at goes
        · cases goes
        · split at goes <;> cases goes
  | scanning scan left rows =>
      unfold ofTask Progress.scan at goes
      dsimp only at goes
      split at goes
      · cases goes
      · rename_i loaded _ content _
        obtain ⟨_, _, _, _, ⟨_, finishes, _⟩ | ⟨_, _, waits⟩⟩ :=
          Database.scanNext_cases loaded (scan.take content) left rows
        · rw [finishes] at goes
          cases goes
        · rw [waits] at goes
          cases goes
  | locking request => cases proper
  | filling insertion table left stored last => cases proper

end Progress

/-! ### In runs -/

namespace Engine

/-- The insertions into the file that are under way are in range. -/
def InRange (engine : Engine) (file : TableFile) : Prop :=
  ∀ (ticket : Nat) (insertion : Insertion) (handover : Handover),
    engine.tasks[ticket]? = some (.inserting insertion handover) → insertion.file = file →
      insertion.InRange engine.database.volume

section

variable {start : Database} {engine : Engine} {journal : Journal} {file : TableFile}

theorem Guarded.pageCount_le (guarded : engine.Guarded start journal) (setUp : start.SetUp)
    (registered : start.catalog.file file.id = .ok file) {action : EngineAction}
    (concurrent : engine.Concurrent action) :
    file.pageCount engine.database.volume ≤
      file.pageCount (engine.perform action).database.volume := by
  have sound := setUp.sound
  rw [← guarded.database.catalog] at sound registered
  exact (guarded.keeps_perform setUp concurrent).grows _ _ _ sound registered

/-- What an action does to the insertions under way: each of them was under way before, or begins
with the first page, or came of one with a page without room, which its transaction had locked. -/
inductive Brings (engine : Engine) (ticket : Nat) (rest : Insertion) (handover : Handover)
    (volume : Volume) : Prop where
  | before (found : engine.tasks[ticket]? = some (.inserting rest handover))
  | begun (database : Database) (insertion : Insertion) (next : Database)
      (advances : insertion.advance database 0 = (next, rest)) (reached : next.volume = volume)
  | onwards (insertion : Insertion) (loaded next : Database)
      (found : engine.tasks[ticket]? = some (.inserting insertion handover))
      (permits : (engine.checked ticket (.inserting insertion handover)).pool.locks.Permits
        ⟨insertion.transaction, insertion.page, .exclusive⟩)
      (loads : loaded.volume = engine.database.volume)
      (skips : insertion.skip loaded = (next, rest)) (reached : next.volume = volume)

theorem Guarded.brings (guarded : engine.Guarded start journal) {action : EngineAction}
    (concurrent : engine.Concurrent action) {ticket : Nat} {rest : Insertion} {handover : Handover}
    (found : (engine.perform action).tasks[ticket]? = some (.inserting rest handover)) :
    engine.Brings ticket rest handover (engine.perform action).database.volume := by
  rcases guarded.task_cases found with before | ⟨operation, rfl, begins⟩ |
    ⟨task, rfl, under, permits, goes⟩
  · exact .before before
  · obtain ⟨transaction, file, row, advances⟩ :=
      Progress.inserting_ofOperation concurrent.2 begins
    exact .begun _ _ _ advances rfl
  · obtain ⟨insertion, loaded, rfl, loads, skips⟩ :=
      Progress.inserting_ofTask (guarded.proper ticket task under) goes
    exact .onwards insertion loaded _ under permits loads skips rfl

theorem InRange.perform (inRange : engine.InRange file) (guarded : engine.Guarded start journal)
    (setUp : start.SetUp) (registered : start.catalog.file file.id = .ok file)
    (sized : 0 < file.pageSize) {action : EngineAction} (concurrent : engine.Concurrent action) :
    (engine.perform action).InRange file := by
  intro ticket rest handover found own
  have grows := guarded.pageCount_le setUp registered concurrent
  rw [← own] at sized grows
  cases guarded.brings concurrent found with
  | before under => exact (inRange ticket rest handover under own).mono grows
  | begun database insertion next advances reached =>
      rw [(Insertion.carries_advance advances).file] at sized
      rw [← reached]
      exact Insertion.inRange_advance sized advances
  | onwards insertion loaded next under permits loads skips reached =>
      have file := (Insertion.carries_skip skips).file
      rw [file] at sized own
      have before := inRange ticket insertion handover under own
      rw [← loads] at before
      rw [← reached]
      exact before.skip sized skips

theorem inRange_new (start : Database) (file : TableFile) : (new start).InRange file := by
  intro ticket insertion handover found
  simp [new] at found

end

end Engine

end RowStore
