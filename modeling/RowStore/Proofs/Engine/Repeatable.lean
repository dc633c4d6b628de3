import RowStore.Proofs.Database.Samples
import RowStore.Proofs.Engine.Growth
import RowStore.Proofs.Engine.Reading

/-!
Repeatable scans: a transaction that has read a table to its end keeps all pages of it locked.
Others only store rows behind a page that they have locked first, so that none come to be behind
these, as long as there is a page at all.
-/

set_option autoImplicit false

namespace RowStore

/-! ### Records without rows -/

namespace Journal

structure Lacks (journal : Journal) (initial : RecordId → Option (List Field))
    (record : RecordId) : Prop where
  onDisk : journal.onDisk initial record = none
  pending : ∀ transaction, ∀ change ∈ journal.pending transaction, change.record ≠ record

section

variable {journal : Journal} {initial : RecordId → Option (List Field)} {record : RecordId}

theorem Lacks.view (lacks : journal.Lacks initial record) (transaction : TransactionId) :
    journal.view initial transaction record = none := by
  unfold Journal.view
  rw [replay_of_untouched (lacks.pending transaction)]
  exact lacks.onDisk

theorem Lacks.note (lacks : journal.Lacks initial record) (transaction : TransactionId)
    {change : Change} (apart : change.record ≠ record) :
    (journal.note transaction change).Lacks initial record := by
  refine ⟨lacks.onDisk, ?_⟩
  intro other noted member
  simp only [Journal.note] at member
  split at member
  · rcases List.mem_append.mp member with before | new
    · exact lacks.pending transaction noted before
    · rw [List.mem_singleton.mp new]
      exact apart
  · exact lacks.pending other noted member

theorem Lacks.abort (lacks : journal.Lacks initial record) (transaction : TransactionId) :
    (journal.abort transaction).Lacks initial record := by
  refine ⟨lacks.onDisk, ?_⟩
  intro other change member
  simp only [Journal.abort] at member
  split at member
  · cases member
  · exact lacks.pending other change member

theorem Lacks.commit (lacks : journal.Lacks initial record) (transaction : TransactionId) :
    (journal.commit transaction).Lacks initial record := by
  refine ⟨?_, (lacks.abort transaction).pending⟩
  unfold Journal.onDisk Journal.commit
  rw [List.map_append, replay_append, replay_of_untouched]
  · exact lacks.onDisk
  · intro cut member
    obtain ⟨change, own, rfl⟩ := List.mem_map.mp member
    exact lacks.pending transaction change own

end

end Journal

namespace Engine

section

variable {start : Database} {engine : Engine} {journal : Journal} {file : TableFile}
  {reader : TransactionId} {limit : Nat} {rows : List Row}

theorem Guarded.lacks_beyond (guarded : engine.Guarded start journal)
    (registered : start.catalog.file file.id = .ok file) {number : Nat}
    (beyond : file.pageCount engine.database.volume ≤ number) (slot : Nat) :
    journal.Lacks start.stored ⟨file.pageId number, slot⟩ := by
  have absent : engine.database.diskPage? (file.pageId number) = none := by
    cases onDisk : engine.database.diskPage? (file.pageId number) with
    | none => rfl
    | some content =>
        rw [← guarded.database.catalog] at registered
        exact absurd (Database.lt_pageCount_of_diskPage? registered onDisk)
          (Nat.not_lt.mpr beyond)
  constructor
  · rw [← guarded.database.disk]
    unfold Database.stored
    rw [absent]
  · intro transaction change member same
    obtain ⟨frame, content, found, _⟩ := guarded.database.pending transaction change member
    obtain ⟨old, onDisk, _⟩ := (guarded.database.backs _ frame content found).disk
    rw [guarded.database.sound.id_eq found, same, absent] at onDisk
    cases onDisk

theorem Guarded.inRange_performEach (guarded : engine.Guarded start journal)
    (setUp : start.SetUp) (registered : start.catalog.file file.id = .ok file)
    (sized : 0 < file.pageSize) (inRange : engine.InRange file) {actions : List EngineAction}
    (concurrent : engine.Throughout Concurrent actions) :
    (engine.performEach actions).Guarded start (engine.record journal actions).2 ∧
      (engine.performEach actions).InRange file :=
  record_invariant
    (fun engine journal => engine.Guarded start journal ∧ engine.InRange file)
    (fun _ _ _ both concurrent => ⟨both.1.perform setUp concurrent,
      both.2.perform both.1 setUp registered sized concurrent⟩) ⟨guarded, inRange⟩ concurrent

/-! ### Tables that were read to the end -/

/-- Besides, no other transaction is about to store a row at the limit or behind, and there is none
yet. -/
structure Fenced (engine : Engine) (start : Database) (journal : Journal) (file : TableFile)
    (reader : TransactionId) (limit : Nat) (rows : List Row) : Prop
    extends Pins engine start journal file reader limit rows where
  short : ∀ (ticket : Nat) insertion handover,
    engine.tasks[ticket]? = some (.inserting insertion handover) → insertion.file = file →
      insertion.transaction ≠ reader → insertion.nextPage < limit
  lacks : ∀ number slot, limit ≤ number →
    journal.Lacks start.stored ⟨file.pageId number, slot⟩

theorem Pins.fenced (pins : engine.Pins start journal file reader limit rows)
    (registered : start.catalog.file file.id = .ok file) (inRange : engine.InRange file)
    (whole : file.pageCount engine.database.volume ≤ limit) :
    engine.Fenced start journal file reader limit rows := by
  refine ⟨pins, ?_, ?_⟩
  · rintro ticket insertion handover found rfl _
    obtain ⟨inside, counted⟩ := inRange ticket insertion handover found rfl
    omega
  · intro number slot beyond
    exact pins.guarded.lacks_beyond registered (Nat.le_trans whole beyond) slot

private theorem Pins.not_permits (pins : engine.Pins start journal file reader limit rows)
    {ticket : Nat} {task : Task} {owner : TransactionId} {number : Nat} (other : owner ≠ reader)
    (below : number < limit) :
    ¬(engine.checked ticket task).pool.locks.Permits ⟨owner, file.pageId number, .exclusive⟩ := by
  rintro ⟨held, holds, covers⟩
  have alone := covers rfl
  subst alone
  obtain ⟨mode, reads⟩ := pins.held number below
  obtain ⟨kept, keeps, _⟩ := LockTable.lockMode?_acquire_covers ticket task.request reads
  have exclusive := (pins.guarded.checked ticket task).exclusive (file.pageId number)
  exact other (exclusive.eq_of_modeOf? holds keeps).symm

private theorem Fenced.short_perform (fenced : engine.Fenced start journal file reader limit rows)
    (some : 0 < limit) {action : EngineAction} (concurrent : engine.Concurrent action)
    {ticket : Nat} {insertion : Insertion} {handover : Handover}
    (found : (engine.perform action).tasks[ticket]? = Option.some (.inserting insertion handover))
    (own : insertion.file = file) (other : insertion.transaction ≠ reader) :
    insertion.nextPage < limit := by
  cases fenced.guarded.brings concurrent found with
  | before under => exact fenced.short ticket insertion handover under own other
  | begun database fresh next advances reached =>
      rw [Insertion.nextPage_advance_zero advances]
      exact some
  | onwards before loaded next under permits loads skips reached =>
      obtain ⟨transaction, sameFile, _⟩ := Insertion.carries_skip skips
      rw [transaction] at other
      rw [sameFile] at own
      have short := fenced.short ticket before handover under own other
      subst own
      exact absurd permits (fenced.toPins.not_permits other short)

private theorem Fenced.lacks_turn (fenced : engine.Fenced start journal file reader limit rows)
    (setUp : start.SetUp) (registered : start.catalog.file file.id = .ok file) {ticket : Nat}
    (spares : Spares reader file.id engine (.turn ticket)) {number : Nat} (slot : Nat)
    (beyond : limit ≤ number) :
    (journal.after engine (.turn ticket)).Lacks start.stored ⟨file.pageId number, slot⟩ := by
  have lacks := fenced.lacks number slot beyond
  rcases journal.after_turn_cases engine ticket with idle |
    ⟨task, outcome, change, found, finishes, changes, noted⟩
  · rw [idle]
    exact lacks
  · rw [noted]
    apply lacks.note
    intro same
    obtain ⟨place, fits⟩ := fenced.guarded.changed setUp found finishes changes
    rw [same, lacks.view] at fits
    rw [same] at place
    by_cases mine : task.transaction = reader
    · have counted : change ∈ engine.changesBy reader (.turn ticket) := by
        unfold changesBy
        dsimp only
        rw [found, finishes]
        dsimp only
        rw [if_pos mine, changes]
        exact List.mem_singleton_self change
      exact spares.2.2 change counted (by rw [same]; rfl)
    · cases task with
      | inserting insertion handover =>
          obtain ⟨_, _, table, registeredOwn⟩ := fenced.guarded.proper ticket _ found
          obtain ⟨numbered, _⟩ := setUp.sound.file registeredOwn
          have sameTable : file.id = insertion.file.id := congrArg PageId.table place
          rw [← numbered, ← sameTable, registered] at registeredOwn
          have own : insertion.file = file := (Except.ok.inj registeredOwn).symm
          have short := fenced.short ticket insertion handover found own mine
          have sameNumber : number = insertion.nextPage := congrArg PageId.number place
          omega
      | deleting transaction row page handover =>
          cases outcome with
          | deleted page =>
              obtain ⟨record, _, rfl⟩ := Option.map_eq_some_iff.mp changes
              cases fits
          | _ => cases changes
      | _ => cases outcome <;> cases changes

theorem Fenced.perform (fenced : engine.Fenced start journal file reader limit rows)
    (setUp : start.SetUp) (registered : start.catalog.file file.id = .ok file) (some : 0 < limit)
    {action : EngineAction} (beside : Beside reader file.id engine action) :
    (engine.perform action).Fenced start (journal.after engine action) file reader limit rows := by
  refine ⟨fenced.toPins.perform setUp beside, ?_, ?_⟩
  · intro ticket insertion handover found own other
    exact fenced.short_perform some beside.1 found own other
  · intro number slot beyond
    have lacks := fenced.lacks number slot beyond
    cases action with
    | begin ticket operation => exact lacks
    | turn ticket => exact fenced.lacks_turn setUp registered beside.2 slot beyond
    | commit transaction =>
        unfold Journal.after
        dsimp only
        split
        · exact lacks.commit transaction
        · exact lacks
    | abort transaction => exact lacks.abort transaction

theorem Fenced.performEach (fenced : engine.Fenced start journal file reader limit rows)
    (setUp : start.SetUp) (registered : start.catalog.file file.id = .ok file) (some : 0 < limit)
    {actions : List EngineAction} (beside : engine.Throughout (Beside reader file.id) actions) :
    (engine.performEach actions).Fenced start (engine.record journal actions).2 file reader limit
      rows :=
  record_invariant
    (fun engine journal => engine.Fenced start journal file reader limit rows)
    (fun _ _ _ fenced beside => fenced.perform setUp registered some beside) fenced beside

end

/-! ### Reading twice -/

/-- After what was done before, the reader has read the file to its end, and later does so again.
From the first scan on it goes on, and stores and deletes no row of the file. The others do what
they like before the scans, between them and in between their calls and turns. -/
structure ReadsTwice (start : Database) (file : TableFile) (reader : TransactionId)
    (before first between second : List EngineAction) (rows again : List Row) : Prop where
  registered : start.catalog.file file.id = .ok file
  concurrent : (new start).Throughout Concurrent (before ++ (first ++ (between ++ second)))
  reads : Reads ((new start).performEach before) (Scan.start file reader) first rows
  rereads : Reads ((new start).performEach (before ++ (first ++ between))) (Scan.start file reader)
    second again
  spares : ((new start).performEach before).Throughout (Spares reader file.id)
    (first ++ (between ++ second))

/-- If the file has a page by the time that it was read to its end, it is read again as it was. -/
theorem scans_repeat {start : Database} (setUp : start.SetUp) {file : TableFile}
    {reader : TransactionId} {before first between second : List EngineAction}
    {rows again : List Row}
    (twice : ReadsTwice start file reader before first between second rows again)
    (paged : 0 < file.pageCount ((new start).performEach (before ++ first)).database.volume) :
    again = rows := by
  obtain ⟨registered, concurrent, reads, rereads, spares⟩ := twice
  obtain ⟨concurrentBefore, concurrentLater⟩ := throughout_append.mp concurrent
  obtain ⟨concurrentFirst, _⟩ := throughout_append.mp concurrentLater
  obtain ⟨besideFirst, besideRest⟩ := throughout_append.mp (concurrentLater.and spares)
  obtain ⟨besideBetween, besideSecond⟩ := throughout_append.mp besideRest
  have sized := TableFile.pageSize_pos paged
  rw [performEach_append] at paged rereads
  rw [performEach_append] at rereads
  -- The first scan comes to all pages, and holds the insertions under way before the last of them.
  obtain ⟨guarded, inRange⟩ :=
    (guarded_new setUp).inRange_performEach setUp registered sized (inRange_new start file)
      concurrentBefore
  obtain ⟨limit, whole, pins⟩ :=
    (guarded.reading file reader).reads setUp registered reads besideFirst
  obtain ⟨_, inRangeFirst⟩ :=
    guarded.inRange_performEach setUp registered sized inRange concurrentFirst
  have some : 0 < limit := Nat.lt_of_lt_of_le paged whole
  have fenced := (pins.fenced registered inRangeFirst whole).performEach setUp registered some
    besideBetween
  -- Both scans have come to all pages that there are now, and to see their rows now.
  obtain ⟨more, wholeAgain, pinsAgain⟩ :=
    (fenced.guarded.reading file reader).reads setUp registered rereads besideSecond
  have fencedAgain := fenced.performEach setUp registered some besideSecond
  refine pinsAgain.lists.unique fencedAgain.lists ?_ ?_
  · intro number slot beyond
    exact (pinsAgain.guarded.lacks_beyond registered (Nat.le_trans wholeAgain beyond) slot).view
      reader
  · intro number slot beyond
    exact (fencedAgain.lacks number slot beyond).view reader

/-- The second transaction finds the page of the first row locked by the reader, and sleeps. -/
theorem scans_repeat_beside_inserter :
    let start : Database := Samples.created 2
    let file : TableFile := Samples.rows
    let scan : Operation := .scan (Scan.start file ⟨3⟩) 5
    let before : List EngineAction :=
      [.begin 0 (.insert ⟨1⟩ ⟨0⟩ (Samples.row 7)), .turn 0, .commit ⟨1⟩]
    let between : List EngineAction :=
      [.begin 2 (.insert ⟨2⟩ ⟨0⟩ (Samples.row 8)), .turn 2]
    let row : Row := (Samples.row 7).storedAt ⟨file.pageId 0, 0⟩
    start.SetUp ∧
      ReadsTwice start file ⟨3⟩ before [.begin 1 scan, .turn 1] between
        [.begin 1 scan, .turn 1] [row] [row] ∧
      0 < file.pageCount ((new start).performEach
        (before ++ [.begin 1 scan, .turn 1])).database.volume ∧
      ((new start).performEach (before ++ [.begin 1 scan, .turn 1] ++
        between)).database.pool.locks.sleeps ⟨2⟩ = true ∧
      [row] = [row] := by
  intro start file scan before between row
  have setUp : start.SetUp := Samples.setUp_created (by decide)
  have twice : ReadsTwice start file ⟨3⟩ before [.begin 1 scan, .turn 1] between
      [.begin 1 scan, .turn 1] [row] [row] := by
    refine ⟨by decide +kernel, by decide +kernel, ?_, ?_, by decide +kernel⟩
    · exact .last (show Calls scan (.scanned ⟨file, ⟨3⟩, 1, []⟩ [row] (some .atEnd)) _ _ from
        .inTurns 1 (by decide +kernel) (.now (by decide +kernel)))
    · exact .last (show Calls scan (.scanned ⟨file, ⟨3⟩, 1, []⟩ [row] (some .atEnd)) _ _ from
        .inTurns 1 (by decide +kernel) (.now (by decide +kernel)))
  have paged : 0 < file.pageCount ((new start).performEach
      (before ++ [.begin 1 scan, .turn 1])).database.volume := by decide +kernel
  exact ⟨setUp, twice, paged, by decide +kernel, scans_repeat setUp twice paged⟩

/-- A file without pages is read with nothing to lock, so that a row that another transaction stores
and commits is there when it is read again. -/
theorem pageless_scan_gains_row :
    let start : Database := Samples.created 2
    let file : TableFile := Samples.rows
    let scan : Operation := .scan (Scan.start file ⟨1⟩) 5
    let between : List EngineAction :=
      [.begin 2 (.insert ⟨2⟩ ⟨0⟩ (Samples.row 7)), .turn 2, .commit ⟨2⟩]
    let row : Row := (Samples.row 7).storedAt ⟨file.pageId 0, 0⟩
    start.SetUp ∧
      ReadsTwice start file ⟨1⟩ [] [.begin 1 scan] between [.begin 1 scan, .turn 1] [] [row] ∧
      [row] ≠ [] := by
  intro start file scan between row
  have setUp : start.SetUp := Samples.setUp_created (by decide)
  refine ⟨setUp, ⟨by decide +kernel, by decide +kernel, ?_, ?_, by decide +kernel⟩,
    List.cons_ne_nil _ _⟩
  · exact .last (show Calls scan (.scanned ⟨file, ⟨1⟩, 0, []⟩ [] (some .atEnd)) _ _ from
      .atOnce 1 (by decide +kernel))
  · exact .last (show Calls scan (.scanned ⟨file, ⟨1⟩, 1, []⟩ [row] (some .atEnd)) _ _ from
      .inTurns 1 (by decide +kernel) (.now (by decide +kernel)))

end Engine

end RowStore
