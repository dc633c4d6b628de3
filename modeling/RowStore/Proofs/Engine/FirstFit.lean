import RowStore.Proofs.Database.Samples
import RowStore.Proofs.Database.Slots
import RowStore.Proofs.Engine.Inserters
import RowStore.Proofs.Engine.Reading

/-!
First fit: an insertion keeps the pages that it found full to itself, so that nobody makes room on
them while it goes on. Where it stores its row, there is no vacant slot before.
-/

set_option autoImplicit false

namespace RowStore

namespace Engine

section

variable {start : Database} {engine : Engine} {journal : Journal} {file : TableFile}
  {ticket : Nat}

/-! ### Turns of an insertion -/

/-- The insertion under the ticket stores its row in this slot in its next turn: the lowest vacant
one of its page. No other slot changes. -/
structure Stores (engine : Engine) (ticket : Nat) (insertion : Insertion) (slot : Nat) : Prop where
  finishes : (engine.turn ticket).2 = .finished (.inserted
    (insertion.row.storedAt ⟨insertion.page, slot⟩) insertion.page)
  inside : slot < insertion.file.slotCount
  vacant : engine.database.row? ⟨insertion.page, slot⟩ = none
  below : ∀ lower < slot, (engine.database.row? ⟨insertion.page, lower⟩).isSome = true
  rows : ∀ record, (engine.turn ticket).1.database.row? record =
    if record = ⟨insertion.page, slot⟩ then some (insertion.row.storedAt ⟨insertion.page, slot⟩)
    else engine.database.row? record
  owned : ∃ frame content,
    (engine.turn ticket).1.database.pool.residentFrame? insertion.page = some (frame, content) ∧
      content.owner = some insertion.transaction
  alone : (engine.turn ticket).1.database.pool.locks.lockMode? insertion.transaction
    insertion.page = some .exclusive
  noted : insertion.page ∈ (engine.turn ticket).1.database.pool.writtenBy insertion.transaction

structure Passes (engine : Engine) (ticket : Nat) (insertion : Insertion) : Prop where
  rows : (engine.turn ticket).1.database.row? = engine.database.row?
  goesOn : (∃ fault, (engine.turn ticket).2 = .finished (.failed fault)) ∨
    (∀ outcome, (engine.turn ticket).2 ≠ .finished outcome) ∧
      ∃ rest : Insertion, rest.Carries insertion ∧
        (engine.turn ticket).1.tasks[ticket]? = some (.inserting rest .toPool)

theorem Guarded.begins_insertion (guarded : engine.Guarded start journal) (setUp : start.SetUp)
    {transaction : TransactionId} {table : TableId} {row : Row}
    (begins : (engine.begin ticket (.insert transaction table row)).2 = .underWay) :
    ∃ insertion : Insertion, start.catalog.file table = .ok insertion.file ∧
      insertion.transaction = transaction ∧ insertion.row = row ∧
        (engine.begin ticket (.insert transaction table row)).1.tasks[ticket]? =
          some (.inserting insertion .toPool) ∧
        (engine.begin ticket (.insert transaction table row)).1.database.row? =
          engine.database.row? := by
  have catalog := setUp.sound
  rw [← guarded.database.catalog] at catalog ⊢
  unfold Engine.begin Progress.ofOperation Progress.insertTable Progress.insertFile
    Insertion.start at begins ⊢
  dsimp only at begins ⊢
  cases registered : engine.database.catalog.file table with
  | error fault =>
      rw [registered] at begins
      cases begins
  | ok file =>
      rw [registered] at begins
      dsimp only at begins ⊢
      by_cases same : row.schema = file.schema
      · rw [if_pos same]
        cases advances : Insertion.advance engine.database ⟨transaction, file, row, 0, 0⟩ 0 with
        | mk next insertion =>
            have carries := Insertion.carries_advance advances
            refine ⟨insertion, congrArg Except.ok carries.file.symm, carries.transaction,
              carries.row, engine.tasks_note_waiting ticket next _, ?_⟩
            exact Database.row?_advance catalog registered advances
      · rw [if_neg same] at begins
        cases begins

theorem Guarded.insertion_turn (guarded : engine.Guarded start journal) (setUp : start.SetUp)
    {insertion : Insertion}
    (found : engine.tasks[ticket]? = some (.inserting insertion .toPool)) :
    engine.Passes ticket insertion ∨ ∃ slot, engine.Stores ticket insertion slot := by
  obtain ⟨_, _, table, registered⟩ := guarded.proper ticket _ found
  have locks := guarded.locks_turn setUp found
  cases guarded.turnsTo found with
  | asleep comes still =>
      refine .inl ⟨?_, .inr ⟨?_, insertion, ⟨rfl, rfl, rfl⟩, ?_⟩⟩
      · rw [comes]
        rfl
      · rw [comes]
        nofun
      · rw [comes]
        exact found
  | refused fault comes awake =>
      refine .inl ⟨?_, .inl ⟨fault, ?_⟩⟩
      · rw [comes, database_note]
        rfl
      · rw [comes]
        rfl
  | granted comes awake permits =>
      obtain ⟨held, mode, covers⟩ := permits
      have alone : (engine.checked ticket (.inserting insertion .toPool)).pool.locks.lockMode?
          insertion.transaction insertion.page = some .exclusive := by
        rw [← covers rfl]
        exact mode
      have tried := (guarded.checked ticket (.inserting insertion .toPool)).tried setUp registered
        alone
      change engine.turn ticket = engine.note ticket (Progress.insert _ insertion .toPool).1
        (Progress.insert _ insertion .toPool).2 at comes
      rw [← locks] at alone
      cases tries : Progress.insert (engine.checked ticket (.inserting insertion .toPool)) insertion
          .toPool with
      | mk next progress =>
          rw [tries] at tried comes
          cases tried with
          | failed _ fault rows =>
              refine .inl ⟨?_, .inl ⟨fault, ?_⟩⟩
              · rw [comes, database_note]
                exact rows
              · rw [comes]
                rfl
          | full loaded _ rest volume skips taken rows =>
              refine .inl ⟨?_, .inr ⟨?_, rest, Insertion.carries_skip skips, ?_⟩⟩
              · rw [comes, database_note]
                exact rows
              · rw [comes]
                nofun
              · rw [comes]
                exact engine.tasks_note_waiting ticket next _
          | stored _ slot inside vacant below rows owned noted =>
              refine .inr ⟨slot, ?_, inside, vacant, below, ?_, ?_, alone, ?_⟩
              · rw [comes]
                rfl
              · rw [comes, database_note]
                exact rows
              · rw [comes, database_note]
                exact owned
              · rw [comes, database_note]
                exact noted

/-! ### Up to the turn that stores the row -/

/-- A step of the operation under the ticket that does not finish it changes no slot. -/
def Quiet (ticket : Nat) (engine : Engine) (action : EngineAction) : Prop :=
  (∃ operation, action = .begin ticket operation) ∨
    action = .turn ticket ∧ (∀ outcome, (engine.turn ticket).2 ≠ .finished outcome) →
  (engine.perform action).database.row? = engine.database.row?

theorem Guarded.insertion_finishes (guarded : engine.Guarded start journal) (setUp : start.SetUp)
    {insertion : Insertion} {outcome : Outcome} {actions : List EngineAction}
    (found : engine.tasks[ticket]? = some (.inserting insertion .toPool))
    (finishes : Finishes ticket outcome engine actions)
    (concurrent : engine.Throughout Concurrent actions) :
    engine.Throughout (Quiet ticket) actions ∧ ∃ middle, ∃ last : Insertion,
      actions = middle ++ [.turn ticket] ∧ last.Carries insertion ∧
        (engine.performEach middle).tasks[ticket]? = some (.inserting last .toPool) ∧
          ((engine.performEach middle).turn ticket).2 = .finished outcome := by
  induction finishes generalizing journal insertion with
  | @now engine finishes =>
      have quiet : engine.Throughout (Quiet ticket) [.turn ticket] := by
        refine ⟨?_, trivial⟩
        rintro (⟨operation, impossible⟩ | ⟨_, unfinished⟩)
        · cases impossible
        · exact absurd finishes (unfinished _)
      exact ⟨quiet, [], insertion, rfl, ⟨rfl, rfl, rfl⟩, found, finishes⟩
  | @later engine action actions goesOn finishes ih =>
      have onwards := guarded.perform setUp concurrent.1
      by_cases own : action = .turn ticket
      · subst own
        rcases guarded.insertion_turn setUp found with ⟨rows, ⟨fault, fails⟩ |
          ⟨_, rest, carries, under⟩⟩ | ⟨slot, stores⟩
        · exact absurd fails (goesOn rfl _)
        · obtain ⟨quiet, middle, last, rfl, continues, foundLast, ends⟩ :=
            ih onwards under concurrent.2
          refine ⟨⟨fun _ => rows, quiet⟩, .turn ticket :: middle, last, rfl, ?_, foundLast, ends⟩
          exact ⟨continues.transaction.trans carries.transaction,
            continues.file.trans carries.file, continues.row.trans carries.row⟩
        · exact absurd stores.finishes (goesOn rfl _)
      · have under := tasks_perform_of_ne found concurrent.1 own
        obtain ⟨quiet, middle, last, rfl, continues, foundLast, ends⟩ :=
          ih onwards under concurrent.2
        refine ⟨⟨?_, quiet⟩, action :: middle, last, rfl, continues, foundLast, ends⟩
        rintro (⟨operation, rfl⟩ | ⟨same, _⟩)
        · cases found.symm.trans concurrent.1.1
        · exact absurd same own

/-! ### Pages that were found full -/

structure Packs (engine : Engine) (start : Database) (journal : Journal) (file : TableFile)
    (transaction : TransactionId) (count : Nat) : Prop where
  alone : ∀ number < count, engine.database.pool.locks.lockMode? transaction
    (file.pageId number) = some .exclusive
  taken : ∀ number < count, ∀ slot < file.slotCount,
    (journal.view start.stored transaction ⟨file.pageId number, slot⟩).isSome = true

theorem Packs.perform {transaction : TransactionId} {count : Nat}
    (packs : engine.Packs start journal file transaction count)
    (guarded : engine.Guarded start journal) (setUp : start.SetUp) {action : EngineAction}
    (concurrent : engine.Concurrent action)
    (spares : Spares transaction file.id engine action) :
    (engine.perform action).Packs start (journal.after engine action) file transaction count := by
  constructor
  · intro number below
    obtain ⟨kept, keeps, covers⟩ := guarded.keeps_lock setUp concurrent (packs.alone number below)
      spares.1 spares.2.1
    rw [keeps, covers rfl]
  · intro number below slot inside
    rw [guarded.view_after setUp (packs.alone number below) spares slot]
    exact packs.taken number below slot inside

structure Fitting (engine : Engine) (start : Database) (journal : Journal) (file : TableFile) :
    Prop extends Sequenced engine start journal where
  inRange : engine.InRange file
  packs : ∀ (ticket : Nat) (insertion : Insertion) (handover : Handover),
    engine.tasks[ticket]? = some (.inserting insertion handover) → insertion.file = file →
      engine.Packs start journal file insertion.transaction insertion.nextPage

theorem fitting_new (setUp : start.SetUp) (file : TableFile) :
    (new start).Fitting start Journal.empty file := by
  refine ⟨sequenced_new setUp, inRange_new start file, ?_⟩
  intro ticket insertion handover found
  simp [new] at found

theorem unused_of_finished {outcome : Outcome}
    (finishes : (engine.turn ticket).2 = .finished outcome) :
    (engine.turn ticket).1.tasks[ticket]? = none := by
  have noted {database : Database} {progress : Progress}
      (ends : (engine.note ticket database progress).2 = .finished outcome) :
      (engine.note ticket database progress).1.tasks[ticket]? = none := by
    rw [tasks_note, if_pos rfl, eq_finished_of_note ends]
    rfl
  cases found : engine.tasks[ticket]? with
  | none =>
      rw [turn_of_unused found] at finishes
      cases finishes
  | some task =>
      rw [turn_of_task found] at finishes ⊢
      split at finishes
      · cases finishes
      · exact noted finishes
      · exact noted finishes

theorem Sequenced.spares_under_way (sequenced : engine.Sequenced start journal)
    {action : EngineAction} (sequential : engine.Sequential action) {task rest : Task}
    (found : engine.tasks[ticket]? = some task)
    (goesOn : (engine.perform action).tasks[ticket]? = some rest) (table : TableId) :
    Spares task.transaction table engine action := by
  obtain ⟨concurrent, free⟩ := sequential
  refine ⟨?_, ?_, ?_⟩
  · rintro rfl
    exact isBusy_eq_false.mp free ticket task found rfl
  · rintro rfl
    exact isBusy_eq_false.mp free ticket task found rfl
  · intro change member
    cases action with
    | turn turned =>
        unfold changesBy at member
        dsimp only at member
        split at member
        · rename_i other outcome under finishes
          split at member
          · rename_i own
            cases sequenced.single turned ticket other task under found own
            cases (unused_of_finished finishes).symm.trans goesOn
          · cases member
        · cases member
    | _ => cases member

theorem after_of_unfinished (journal : Journal)
    (unfinished : ∀ outcome, (engine.turn ticket).2 ≠ .finished outcome) :
    journal.after engine (.turn ticket) = journal := by
  unfold Journal.after
  dsimp only
  split
  · rename_i task outcome found finishes
    exact absurd finishes (unfinished outcome)
  · rfl

/-- An insertion that goes on has found a page full, which its transaction has to itself. -/
private theorem Guarded.packs_onwards (guarded : engine.Guarded start journal)
    (setUp : start.SetUp) {insertion rest : Insertion} {handover : Handover}
    (found : engine.tasks[ticket]? = some (.inserting insertion handover))
    (permits : (engine.checked ticket (.inserting insertion handover)).pool.locks.Permits
      ⟨insertion.transaction, insertion.page, .exclusive⟩)
    (goes : (Progress.ofTask (engine.checked ticket (.inserting insertion handover))
      (.inserting insertion handover)).2 = .waiting (.inserting rest handover)) :
    (engine.turn ticket).1.database.pool.locks.lockMode? insertion.transaction insertion.page =
      some .exclusive ∧ ∀ slot < insertion.file.slotCount,
        (journal.view start.stored insertion.transaction ⟨insertion.page, slot⟩).isSome = true := by
  obtain ⟨rfl, _, table, registered⟩ := guarded.proper ticket _ found
  have isolated := guarded.checked ticket (.inserting insertion .toPool)
  obtain ⟨held, mode, covers⟩ := permits
  rw [covers rfl] at mode
  refine ⟨by rwa [guarded.locks_turn setUp found], ?_⟩
  intro slot inside
  rw [← isolated.row?_view mode slot, Option.isSome_map]
  have tried := isolated.tried setUp registered mode
  change (Progress.insert _ insertion .toPool).2 = _ at goes
  cases tries : Progress.insert (engine.checked ticket (.inserting insertion .toPool)) insertion
      .toPool with
  | mk next progress =>
      rw [tries] at tried goes
      cases tried with
      | full loaded _ rest volume skips taken rows => exact taken slot inside
      | _ => cases goes

theorem Fitting.perform (fitting : engine.Fitting start journal file) (setUp : start.SetUp)
    (registered : start.catalog.file file.id = .ok file) (sized : 0 < file.pageSize)
    {action : EngineAction} (sequential : engine.Sequential action) :
    (engine.perform action).Fitting start (journal.after engine action) file := by
  have guarded := fitting.toGuarded
  refine ⟨fitting.toSequenced.perform setUp sequential,
    fitting.inRange.perform guarded setUp registered sized sequential.1, ?_⟩
  intro ticket rest handover found own
  rcases guarded.task_cases found with before | ⟨operation, rfl, begins⟩ |
    ⟨task, rfl, under, permits, goes⟩
  · exact (fitting.packs ticket rest handover before own).perform guarded setUp sequential.1
      (fitting.spares_under_way sequential before found file.id)
  · obtain ⟨_, _, _, advances⟩ := Progress.inserting_ofOperation sequential.1.2 begins
    rw [Insertion.nextPage_advance_zero advances]
    exact ⟨nofun, nofun⟩
  · obtain ⟨insertion, loaded, rfl, volume, skips⟩ :=
      Progress.inserting_ofTask (guarded.proper ticket task under) goes
    have carries := Insertion.carries_skip skips
    rw [carries.file] at own
    have next : rest.nextPage = insertion.nextPage + 1 := by
      have volume : loaded.volume = engine.database.volume := volume
      have inRange := fitting.inRange ticket insertion handover under own
      rw [← volume] at inRange
      exact (Insertion.skip_cases inRange skips).1
    obtain ⟨alone, taken⟩ := guarded.packs_onwards setUp under permits (congrArg Prod.snd goes)
    have unfinished : ∀ outcome, (engine.turn ticket).2 ≠ .finished outcome := by
      intro outcome finishes
      cases (unused_of_finished finishes).symm.trans found
    have kept := (fitting.packs ticket insertion handover under own).perform guarded setUp
      sequential.1 (fitting.spares_under_way sequential under found file.id)
    rw [next, carries.transaction]
    subst own
    constructor
    · intro number below
      rcases Nat.lt_succ_iff_lt_or_eq.mp below with before | rfl
      · exact kept.alone number before
      · exact alone
    · intro number below slot inside
      rcases Nat.lt_succ_iff_lt_or_eq.mp below with before | rfl
      · exact kept.taken number before slot inside
      · rw [after_of_unfinished journal unfinished]
        exact taken slot inside

theorem Fitting.performEach (fitting : engine.Fitting start journal file) (setUp : start.SetUp)
    (registered : start.catalog.file file.id = .ok file) (sized : 0 < file.pageSize)
    {actions : List EngineAction} (sequential : engine.Throughout Sequential actions) :
    (engine.performEach actions).Fitting start (engine.record journal actions).2 file :=
  record_invariant (fun engine journal => engine.Fitting start journal file)
    (fun _ _ _ fitting sequential => fitting.perform setUp registered sized sequential) fitting
    sequential

/-! ### First fit -/

/-- The operation under the ticket stores the row in its next turn, in the first vacant slot of the
file, and returns it with its place. No other slot changes, and the page is changed in the pool by
the transaction, which has it to itself and means to write it. -/
structure StoresFirst (engine : Engine) (ticket : Nat) (transaction : TransactionId)
    (file : TableFile) (row : Row) (record : RecordId) : Prop where
  finishes : (engine.turn ticket).2 = .finished (.inserted (row.storedAt record) record.page)
  before : ∀ number < record.page.number, ∀ slot < file.slotCount,
    ((engine.turn ticket).1.database.row? ⟨file.pageId number, slot⟩).isSome = true
  below : ∀ slot < record.slot,
    ((engine.turn ticket).1.database.row? ⟨record.page, slot⟩).isSome = true
  inside : record.page.table = file.id ∧ record.slot < file.slotCount
  vacant : engine.database.row? record = none
  rows : ∀ other, (engine.turn ticket).1.database.row? other =
    if other = record then some (row.storedAt record) else engine.database.row? other
  owned : ∃ frame content,
    (engine.turn ticket).1.database.pool.residentFrame? record.page = some (frame, content) ∧
      content.owner = some transaction
  alone : (engine.turn ticket).1.database.pool.locks.lockMode? transaction record.page =
    some .exclusive
  noted : record.page ∈ (engine.turn ticket).1.database.pool.writtenBy transaction

theorem Fitting.storesFirst {insertion : Insertion} {slot : Nat}
    (fitting : engine.Fitting start journal insertion.file)
    (found : engine.tasks[ticket]? = some (.inserting insertion .toPool))
    (stores : engine.Stores ticket insertion slot) :
    engine.StoresFirst ticket insertion.transaction insertion.file insertion.row
      ⟨insertion.page, slot⟩ where
  finishes := stores.finishes
  before := by
    intro number before other inside
    have packs := fitting.packs ticket insertion .toPool found rfl
    have different : (⟨insertion.file.pageId number, other⟩ : RecordId) ≠
        ⟨insertion.page, slot⟩ := by
      intro same
      have numbers : number = insertion.nextPage :=
        congrArg (fun record => record.page.number) same
      exact absurd numbers (Nat.ne_of_lt before)
    have taken := packs.taken number before other inside
    rw [← fitting.database.row?_view (packs.alone number before) other, Option.isSome_map] at taken
    rw [stores.rows, if_neg different]
    exact taken
  below := by
    intro lower lowerThan
    have different : (⟨insertion.page, lower⟩ : RecordId) ≠ ⟨insertion.page, slot⟩ := by
      intro same
      exact absurd (congrArg RecordId.slot same) (Nat.ne_of_lt lowerThan)
    rw [stores.rows, if_neg different]
    exact stores.below lower lowerThan
  inside := ⟨rfl, stores.inside⟩
  vacant := stores.vacant
  rows := stores.rows
  owned := stores.owned
  alone := stores.alone
  noted := stores.noted

end

/-- Whatever transactions do beside one another, one operation of each at a time: a row that is
inserted comes to the first vacant slot that its table has at that moment, and no turn of the
insertion changes any other slot. -/
theorem insertion_is_first_fit {start : Database} (setUp : start.SetUp)
    {before rest : List EngineAction} {asked : Engine} {ticket : Nat}
    {transaction : TransactionId} {table : TableId} {row stored : Row} {page : PageId}
    (sequential : (new start).Throughout Sequential
      (before ++ .begin ticket (.insert transaction table row) :: rest))
    (reached : (new start).performEach before = asked)
    (begins : (asked.begin ticket (.insert transaction table row)).2 = .underWay)
    (finishes : Finishes ticket (.inserted stored page)
      (asked.begin ticket (.insert transaction table row)).1 rest) :
    ∃ file record middle, start.catalog.file table = .ok file ∧
      stored = row.storedAt record ∧ page = record.page ∧ rest = middle ++ [.turn ticket] ∧
      (asked.performEach (.begin ticket (.insert transaction table row) :: middle)).StoresFirst
        ticket transaction file row record ∧
      asked.Throughout (Quiet ticket) (.begin ticket (.insert transaction table row) :: rest) := by
  subst reached
  obtain ⟨early, now, late⟩ := throughout_append.mp sequential
  have guarded := ((sequenced_new setUp).performEach setUp early).toGuarded
  obtain ⟨insertion, registered, rfl, rfl, found, rows⟩ := guarded.begins_insertion setUp begins
  -- The insertion goes on up to the turn that stores the row.
  obtain ⟨quiet, middle, last, rfl, carries, under, ends⟩ :=
    (guarded.perform setUp now.1).insertion_finishes setUp found finishes
      (late.mono (fun _ _ sequential => sequential.1))
  obtain ⟨lateMiddle, _⟩ := throughout_append.mp late
  have untilLast : (new start).Throughout Sequential
      (before ++ .begin ticket (.insert insertion.transaction table insertion.row) :: middle) :=
    throughout_append.mpr ⟨early, now, lateMiddle⟩
  have guardedLast := ((sequenced_new setUp).performEach setUp untilLast).toGuarded
  rw [performEach_append] at guardedLast
  have stores : ∃ slot, Stores (((new start).performEach before).performEach
      (.begin ticket (.insert insertion.transaction table insertion.row) :: middle)) ticket last
        slot := by
    rcases guardedLast.insertion_turn setUp under with ⟨_, ⟨fault, fails⟩ | ⟨goesOn, _⟩⟩ | stores
    · cases fails.symm.trans ends
    · exact absurd ends (goesOn _)
    · exact stores
  obtain ⟨slot, stores⟩ := stores
  -- A page with a slot has bytes.
  have sized : 0 < last.file.pageSize := by
    have inside := stores.inside
    unfold TableFile.slotCount Geometry.slotCount at inside
    rw [Nat.pos_iff_ne_zero]
    intro empty
    simp [empty] at inside
  have own : start.catalog.file last.file.id = .ok last.file := by
    rw [carries.file, (setUp.sound.file registered).1]
    exact registered
  have fitting := (fitting_new setUp last.file).performEach setUp own sized untilLast
  rw [performEach_append] at fitting
  have first := fitting.storesFirst under stores
  cases stores.finishes.symm.trans ends
  refine ⟨insertion.file, ⟨last.page, slot⟩, middle, registered, ?_, rfl, rfl, ?_, fun _ => rows,
    quiet⟩
  · rw [carries.row]
  · rw [carries.transaction, carries.file, carries.row] at first
    exact first

/-- The second transaction finds the first page full, and waits for the first transaction, which has
deleted a row of the second page. It stores its row in the place of that row. -/
theorem insertion_is_first_fit_beside_deleter :
    let gapped : List UInt8 := 5 :: List.replicate 15 0
    let start : Database := Samples.stored 2 (Samples.fullPage ++ gapped)
    let file : TableFile := Samples.rows
    let record : RecordId := ⟨file.pageId 1, 0⟩
    let row : Row := Samples.row 8
    let insert : EngineAction := .begin 2 (.insert ⟨2⟩ file.id row)
    let before : List EngineAction :=
      [.begin 1 (.delete ⟨1⟩ ((Samples.row 0).storedAt record)), .turn 1]
    let middle : List EngineAction := [.turn 2, .turn 2, .commit ⟨1⟩]
    let asked := (new start).performEach before
    start.SetUp ∧ (new start).Throughout Sequential (before ++ insert :: (middle ++ [.turn 2])) ∧
      (asked.begin 2 (.insert ⟨2⟩ file.id row)).2 = .underWay ∧
      Finishes 2 (.inserted (row.storedAt record) record.page) (asked.perform insert)
        (middle ++ [.turn 2]) ∧
      (asked.performEach (insert :: middle)).StoresFirst 2 ⟨2⟩ file row record := by
  intro gapped start file record row insert before middle asked
  have setUp : start.SetUp := Samples.setUp_stored (by decide) _
  have sequential : (new start).Throughout Sequential
      (before ++ insert :: (middle ++ [.turn 2])) := by decide +kernel
  have begins : (asked.begin 2 (.insert ⟨2⟩ file.id row)).2 = .underWay := by decide +kernel
  have skips : ((asked.perform insert).turn 2).2 = .underWay := by decide +kernel
  have waits : ((asked.performEach [insert, .turn 2]).turn 2).2 = .asleep := by decide +kernel
  have stores : ((asked.performEach (insert :: middle)).turn 2).2 =
      .finished (.inserted (row.storedAt record) record.page) := by decide +kernel
  have finishes : Finishes 2 (.inserted (row.storedAt record) record.page)
      (asked.perform insert) (middle ++ [.turn 2]) := by
    refine .later ?_ (.later ?_ (.later nofun (.now stores)))
    · intro _ outcome finished
      cases skips.symm.trans finished
    · intro _ outcome finished
      cases waits.symm.trans finished
  obtain ⟨own, place, turns, registered, sameRow, samePage, sameRest, first, _⟩ :=
    insertion_is_first_fit setUp sequential rfl begins finishes
  have registeredOwn : start.catalog.file file.id = .ok file := by decide +kernel
  cases registeredOwn.symm.trans registered
  cases List.append_cancel_right sameRest
  have same : record = place := Option.some.inj (congrArg Row.record sameRow)
  subst same
  exact ⟨setUp, sequential, begins, finishes, first⟩

end Engine

end RowStore
