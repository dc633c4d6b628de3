import RowStore.Proofs.Database.Room
import RowStore.Proofs.Database.Upkeep
import RowStore.Proofs.Engine.Run

/-!
Steps of operations: what an operation does before its first lock, and under each lock that it is
granted, keeps transactions isolated and adds its own changes to what its transaction has changed.
-/

set_option autoImplicit false

namespace RowStore

def Task.Proper (catalog : Catalog) : Task → Prop
  | .fetching _ _ _ => True
  | .inserting insertion handover =>
      handover = .toPool ∧ insertion.row.Typed ∧
        ∃ table, catalog.file table = .ok insertion.file
  | .deleting _ _ _ handover => handover = .toPool
  | .scanning scan _ _ => scan.current = []
  | _ => False

structure Task.Continues (rest task : Task) : Prop where
  transaction : rest.transaction = task.transaction
  table : rest.request.page.table = task.request.page.table
  change? : ∀ outcome, rest.change? outcome = task.change? outcome

structure Task.Does (task : Task) (operation : Operation) : Prop where
  transaction : task.transaction = operation.transaction
  table : operation.table? = some task.request.page.table
  change? : ∀ outcome, task.change? outcome = operation.change? outcome

def Journal.noting (journal : Journal) (task : Task) : Progress → Journal
  | .finished outcome =>
      match task.change? outcome with
      | some change => journal.note task.transaction change
      | none => journal
  | .waiting _ => journal

theorem Journal.noting_of_unchanged (journal : Journal) {task : Task} {outcome : Outcome}
    (unchanged : task.change? outcome = none) :
    journal.noting task (.finished outcome) = journal := by
  unfold Journal.noting
  dsimp only
  rw [unchanged]

theorem Journal.noting_of_change (journal : Journal) {task : Task} {outcome : Outcome}
    {change : Change} (changed : task.change? outcome = some change) :
    journal.noting task (.finished outcome) = journal.note task.transaction change := by
  unfold Journal.noting
  dsimp only
  rw [changed]

theorem Task.change?_of_quiet (task : Task) {outcome : Outcome}
    (quiet : outcome.isChange = false) : task.change? outcome = none := by
  cases outcome with
  | inserted row page => cases quiet
  | deleted page => cases quiet
  | _ => cases task <;> rfl

theorem Task.isChange_fail (task : Task) (fault : Fault) :
    (task.fail fault).isChange = false := by
  cases task <;> rfl

theorem Task.change?_fail (task : Task) (fault : Fault) :
    task.change? (task.fail fault) = none :=
  task.change?_of_quiet (task.isChange_fail fault)

structure Insertion.Carries (rest insertion : Insertion) : Prop where
  transaction : rest.transaction = insertion.transaction
  file : rest.file = insertion.file
  row : rest.row = insertion.row

theorem Insertion.carries_advance {database next : Database} {insertion rest : Insertion}
    {tried : Nat} (advances : insertion.advance database tried = (next, rest)) :
    rest.Carries insertion := by
  unfold Insertion.advance at advances
  dsimp only at advances
  split at advances
  · cases advances
    exact ⟨rfl, rfl, rfl⟩
  · cases advances
    exact ⟨rfl, rfl, rfl⟩

theorem Insertion.carries_skip {database next : Database} {insertion rest : Insertion}
    (skips : insertion.skip database = (next, rest)) : rest.Carries insertion := by
  unfold Insertion.skip at skips
  split at skips
  · cases skips
    exact ⟨rfl, rfl, rfl⟩
  · exact carries_advance skips

theorem Task.continues_inserting {insertion rest : Insertion} (handover : Handover)
    (carries : rest.Carries insertion) :
    (Task.inserting rest handover).Continues (.inserting insertion handover) := by
  refine ⟨carries.transaction, congrArg TableFile.id carries.file, ?_⟩
  intro outcome
  cases outcome with
  | inserted stored page => simp only [Task.change?, carries.row]
  | _ => rfl

namespace Database

section

variable {start database : Database} {journal : Journal}

/-! ### Pages under a lock -/

private theorem Isolated.noted (isolated : database.Isolated start journal)
    {transaction : TransactionId} {page : PageId} (access : Access)
    (permits : database.pool.locks.Permits ⟨transaction, page, access.mode⟩) :
    (database.noteAccess transaction page access).Isolated start journal ∧
      (database.noteAccess transaction page access).pool.locks = database.pool.locks := by
  obtain ⟨held, mode, covers⟩ := permits
  constructor
  · apply isolated.noteAccess
    intro writes
    rw [mode, covers (by rw [writes]; rfl)]
  · cases access with
    | read => rfl
    | write => rfl

private theorem Isolated.reach (isolated : database.Isolated start journal)
    {transaction : TransactionId} {page : PageId} {access : Access}
    (permits : database.pool.locks.Permits ⟨transaction, page, access.mode⟩)
    {loaded : Database} {frame : Nat} {content : Page}
    (loads : (database.noteAccess transaction page access).load page =
      .ok (loaded, frame, content)) :
    loaded.Isolated start journal ∧ loaded.pool.residentFrame? page = some (frame, content) ∧
      loaded.pool.locks = database.pool.locks ∧ database.Keeps loaded ∧
        (access = .write → page ∈ loaded.pool.writtenBy transaction) := by
  obtain ⟨noted, same⟩ := isolated.noted access permits
  obtain ⟨next, found, locks, written⟩ := noted.load loads
  have keeps := (database.keeps_noteAccess transaction page access).trans
    (keeps_load noted.sound loads)
  refine ⟨next, found, locks.trans same, keeps, ?_⟩
  intro writes
  subst writes
  unfold Pool.writtenBy
  rw [written]
  exact Pool.mem_writtenBy_noteWrite.mpr (Or.inl ⟨rfl, rfl⟩)

private theorem Isolated.absorb (isolated : database.Isolated start journal)
    {transaction : TransactionId} {page : PageId} {frame : Nat} {content : Page}
    (found : database.pool.residentFrame? page = some (frame, content))
    (owned : content.owner = some transaction) :
    ∃ next, database.absorb transaction frame content = (next, .ok ()) ∧
      next.Isolated start journal ∧ next.pool.locks = database.pool.locks := by
  obtain ⟨member, _⟩ := isolated.dirty page frame content transaction found owned
  refine ⟨database.noteAccess transaction page .write, ?_, ?_, rfl⟩
  · exact absorb_of_resident found (isolated.sound.id_eq found) owned
  · exact isolated.noteAccess (fun _ => isolated.written transaction page member)

private theorem Isolated.store (isolated : database.Isolated start journal)
    {transaction : TransactionId} {page : PageId} {frame slot : Nat} {content : Page}
    {row : Option Row} (found : database.pool.residentFrame? page = some (frame, content))
    (member : page ∈ database.pool.writtenBy transaction) (inside : slot < content.slots.length)
    (wellFormed : (content.assign slot row).WellFormed) :
    ∃ next, Progress.handOver
        (database.setFrame frame ((content.assign slot row).mark (some transaction))) transaction
        frame ((content.assign slot row).mark (some transaction)) .toPool = (next, .ok ()) ∧
      next.Isolated start (journal.note transaction ⟨⟨page, slot⟩, row.map Row.fields⟩) ∧
        next.pool.locks = database.pool.locks ∧ database.Keeps next := by
  have id := isolated.sound.id_eq found
  have rows (other : Nat) :
      (((content.assign slot row).mark (some transaction)).row? other).map Row.fields =
        if other = slot then row.map Row.fields else (content.row? other).map Row.fields := by
    rw [Page.row?_mark, Page.row?_assign inside]
    split
    · rfl
    · rfl
  have changed := isolated.change found member (wellFormed.mark (some transaction)) id rfl rfl rfl
    rows
  have resident : (database.setFrame frame
      ((content.assign slot row).mark (some transaction))).pool.residentFrame? page =
        some (frame, (content.assign slot row).mark (some transaction)) :=
    (isolated.sound.residentFrame?_setFrame found _ page).trans (if_pos rfl)
  obtain ⟨next, absorbs, reached, locks⟩ := changed.absorb resident rfl
  have kept := keeps_absorb
    (database.setFrame frame ((content.assign slot row).mark (some transaction))) transaction frame
    ((content.assign slot row).mark (some transaction))
  rw [absorbs] at kept
  exact ⟨next, absorbs, reached, locks, (database.keeps_setFrame frame _).trans kept⟩

/-! ### Insertions -/

private theorem Isolated.advance (isolated : database.Isolated start journal)
    (setUp : start.SetUp) {insertion rest : Insertion} {table : TableId}
    (registered : database.catalog.file table = .ok insertion.file) {tried : Nat} {next : Database}
    (advances : insertion.advance database tried = (next, rest)) :
    next.Isolated start journal ∧ next.pool.locks = database.pool.locks ∧
      database.Keeps next := by
  unfold Insertion.advance at advances
  dsimp only at advances
  split at advances
  · cases advances
    exact ⟨isolated, rfl, .refl _⟩
  · cases advances
    exact ⟨isolated.appendEmptyPage setUp registered, rfl, keeps_appendEmptyPage registered⟩

private theorem Isolated.skip (isolated : database.Isolated start journal) (setUp : start.SetUp)
    {insertion rest : Insertion} {table : TableId}
    (registered : database.catalog.file table = .ok insertion.file) {next : Database}
    (skips : insertion.skip database = (next, rest)) :
    next.Isolated start journal ∧ next.pool.locks = database.pool.locks ∧
      database.Keeps next := by
  unfold Insertion.skip at skips
  split at skips
  · cases skips
    exact ⟨isolated, rfl, .refl _⟩
  · exact isolated.advance setUp registered skips

/-! ### Under a lock -/

/-- What a step of a task comes to: transactions are as isolated as before with the task's change
noted, no lock changed, and a change is on the page that the task has locked, where it stores a row
in place of none or deletes one that is there. -/
structure Isolated.Goes (database start : Database) (journal : Journal) (task : Task)
    (next : Database × Progress) : Prop where
  isolated : next.1.Isolated start (journal.noting task next.2)
  locks : next.1.pool.locks = database.pool.locks
  keeps : database.Keeps next.1
  proper : ∀ rest, next.2 = .waiting rest → rest.Proper start.catalog ∧ rest.Continues task
  changes : ∀ outcome, next.2 = .finished outcome →
    (task.change? outcome).isSome = outcome.isChange
  place : ∀ outcome change, next.2 = .finished outcome → task.change? outcome = some change →
    change.record.page = task.request.page
  fits : ∀ outcome change, next.2 = .finished outcome → task.change? outcome = some change →
    (journal.view start.stored task.transaction change.record).isSome = change.fields.isNone

private theorem Isolated.Goes.unchanged {task : Task} {next : Database} {outcome : Outcome}
    (isolated : next.Isolated start journal) (locks : next.pool.locks = database.pool.locks)
    (keeps : database.Keeps next) (quiet : outcome.isChange = false) :
    Isolated.Goes database start journal task (next, .finished outcome) := by
  have unchanged := task.change?_of_quiet quiet
  constructor
  · rw [journal.noting_of_unchanged unchanged]
    exact isolated
  · exact locks
  · exact keeps
  · intro rest impossible
    cases impossible
  · intro other same
    cases same
    rw [unchanged, quiet]
    rfl
  · intro other change same changed
    cases same
    rw [unchanged] at changed
    cases changed
  · intro other change same changed
    cases same
    rw [unchanged] at changed
    cases changed

private theorem Isolated.Goes.waiting {task rest : Task} {next : Database}
    (isolated : next.Isolated start journal) (locks : next.pool.locks = database.pool.locks)
    (keeps : database.Keeps next) (proper : rest.Proper start.catalog)
    (continues : rest.Continues task) :
    Isolated.Goes database start journal task (next, .waiting rest) := by
  constructor
  · exact isolated
  · exact locks
  · exact keeps
  · intro other same
    cases same
    exact ⟨proper, continues⟩
  · intro outcome impossible
    cases impossible
  · intro outcome change impossible
    cases impossible
  · intro outcome change impossible
    cases impossible

theorem Isolated.shows_view (isolated : database.Isolated start journal) {page : PageId}
    {frame : Nat} {content : Page}
    (found : database.pool.residentFrame? page = some (frame, content))
    {transaction : TransactionId} {held : LockMode}
    (holds : database.pool.locks.lockMode? transaction page = some held) :
    content.Shows (journal.view start.stored transaction) := by
  unfold Journal.view
  rw [← isolated.disk]
  exact isolated.shows found holds

private theorem Isolated.Goes.stored {loaded : Database} {task : Task} {outcome : Outcome}
    {transaction : TransactionId} {page : PageId} {frame slot : Nat} {content : Page}
    {row : Option Row} (reached : loaded.Isolated start journal)
    (locks : loaded.pool.locks = database.pool.locks) (keeps : database.Keeps loaded)
    (found : loaded.pool.residentFrame? page = some (frame, content))
    (member : page ∈ loaded.pool.writtenBy transaction) (inside : slot < content.slots.length)
    (wellFormed : (content.assign slot row).WellFormed)
    (before : (content.row? slot).isSome = row.isNone)
    (own : task.request = ⟨transaction, page, .exclusive⟩) (isChange : outcome.isChange = true)
    (changed : task.change? outcome = some ⟨⟨page, slot⟩, row.map Row.fields⟩) :
    ∃ next, Progress.handOver
        (loaded.setFrame frame ((content.assign slot row).mark (some transaction))) transaction
        frame ((content.assign slot row).mark (some transaction)) .toPool = (next, .ok ()) ∧
      Isolated.Goes database start journal task (next, .finished outcome) := by
  obtain ⟨next, absorbs, kept, same, keepsOn⟩ := reached.store found member inside wellFormed
  have mine : task.transaction = transaction := by
    unfold Task.transaction
    rw [own]
  refine ⟨next, absorbs, ?_⟩
  constructor
  · rw [journal.noting_of_change changed, mine]
    exact kept
  · exact same.trans locks
  · exact keeps.trans keepsOn
  · intro rest impossible
    cases impossible
  · intro other finished
    cases finished
    rw [changed, isChange]
    rfl
  · intro other change finished answered
    cases finished
    rw [changed] at answered
    cases answered
    rw [own]
  · intro other change finished answered
    cases finished
    rw [changed] at answered
    cases answered
    have shows := reached.shows_view found (reached.written transaction page member) slot
    rw [reached.sound.id_eq found] at shows
    rw [mine, ← shows, Option.isSome_map, before, Option.isNone_map]

private theorem Isolated.goes_fetch (isolated : database.Isolated start journal)
    {transaction : TransactionId} {page : PageId} {access : Access}
    (permits : database.pool.locks.Permits ⟨transaction, page, access.mode⟩) :
    Isolated.Goes database start journal (.fetching transaction page access)
      (Progress.fetch database transaction page access) := by
  unfold Progress.fetch
  dsimp only
  split
  · rename_i loaded frame content loads
    obtain ⟨reached, _, locks, keeps, _⟩ := isolated.reach permits loads
    exact .unchanged reached locks keeps rfl
  · obtain ⟨noted, same⟩ := isolated.noted access permits
    exact .unchanged noted same (database.keeps_noteAccess _ _ _) rfl

private theorem Isolated.goes_insert (isolated : database.Isolated start journal)
    (setUp : start.SetUp) {insertion : Insertion} {handover : Handover}
    (proper : (Task.inserting insertion handover).Proper start.catalog)
    (permits : database.pool.locks.Permits ⟨insertion.transaction, insertion.page, .exclusive⟩) :
    Isolated.Goes database start journal (.inserting insertion handover)
      (Progress.insert database insertion handover) := by
  obtain ⟨rfl, typed, table, registered⟩ := proper
  obtain ⟨noted, same⟩ := isolated.noted .write permits
  unfold Progress.insert Insertion.tryPage
  dsimp only
  cases loads : (database.noteAccess insertion.transaction insertion.page .write).load
      insertion.page with
  | error fault =>
      exact .unchanged noted same (database.keeps_noteAccess _ _ _) rfl
  | ok found =>
      obtain ⟨loaded, frame, content⟩ := found
      obtain ⟨reached, resident, locks, keeps, member⟩ := isolated.reach permits loads
      dsimp only
      cases full : content.isFull with
      | true =>
          rw [← reached.catalog] at registered
          cases skips : insertion.skip loaded with
          | mk next rest =>
              obtain ⟨skipped, same, keepsOn⟩ := reached.skip setUp registered skips
              have carries := Insertion.carries_skip skips
              simp only [if_true]
              refine .waiting skipped (same.trans locks) (keeps.trans keepsOn)
                ⟨rfl, ?_, table, ?_⟩ (Task.continues_inserting _ carries)
              · rw [carries.row]
                exact typed
              · rw [carries.file, ← reached.catalog]
                exact registered
      | false =>
          cases inserts : content.insert insertion.row with
          | error fault => exact .unchanged reached locks keeps rfl
          | ok answer =>
              obtain ⟨changed, stored⟩ := answer
              obtain ⟨wellFormed, slot, vacant, inside, rfl, rfl⟩ :=
                (reached.backs _ _ _ resident).wellFormed.insert typed inserts
              have id := reached.sound.id_eq resident
              have changed : (Task.inserting insertion .toPool).change? (.inserted
                  (insertion.row.storedAt ⟨content.id, slot⟩) content.id) =
                    some ⟨⟨insertion.page, slot⟩, some insertion.row.fields⟩ := by
                rw [id]
                rfl
              have before : (content.row? slot).isSome =
                  (some (insertion.row.storedAt ⟨content.id, slot⟩)).isNone := by
                rw [vacant]
                rfl
              obtain ⟨handed, hands, goes⟩ := Isolated.Goes.stored reached locks keeps resident
                (member rfl) inside wellFormed before rfl rfl changed
              simp only [Bool.false_eq_true, if_false, hands]
              exact goes

private theorem Isolated.goes_delete (isolated : database.Isolated start journal)
    {transaction : TransactionId} {row : Row} {page : PageId} {handover : Handover}
    (proper : (Task.deleting transaction row page handover).Proper start.catalog)
    (permits : database.pool.locks.Permits ⟨transaction, page, .exclusive⟩) :
    Isolated.Goes database start journal (.deleting transaction row page handover)
      (Progress.delete database transaction row page handover) := by
  cases proper
  obtain ⟨noted, same⟩ := isolated.noted .write permits
  unfold Progress.delete
  dsimp only
  cases loads : (database.noteAccess transaction page .write).load page with
  | error fault =>
      exact .unchanged noted same (database.keeps_noteAccess _ _ _) rfl
  | ok found =>
      obtain ⟨loaded, frame, content⟩ := found
      obtain ⟨reached, resident, locks, keeps, member⟩ := isolated.reach permits loads
      dsimp only
      cases deletes : content.delete row with
      | error fault => exact .unchanged reached locks keeps rfl
      | ok next =>
          obtain ⟨wellFormed, slot, recorded, inside, occupied, rfl⟩ :=
            (reached.backs _ _ _ resident).wellFormed.delete deletes
          have id := reached.sound.id_eq resident
          have changed : (Task.deleting transaction row page .toPool).change?
              (.deleted content.id) = some ⟨⟨page, slot⟩, none⟩ := by
            simp only [Task.change?, recorded, id, Option.map_some]
          obtain ⟨handed, hands, goes⟩ := Isolated.Goes.stored reached locks keeps resident
            (member rfl) inside wellFormed occupied rfl rfl changed
          simp only [hands]
          exact goes

/-- A scan gives out the rows that it has and changes nothing. It has none left when it is at its
end and when it goes on to a page. -/
theorem scanNext_cases (database : Database) (scan : Scan) (left : Nat) (rows : List Row) :
    ∃ rest given, given ++ rest.current = scan.current ∧
      (rest.transaction = scan.transaction ∧ rest.file = scan.file ∧
        rest.nextPage = scan.nextPage) ∧
      ((∃ ending, Progress.scanNext database scan left rows =
          (database, .finished (.scanned rest (rows ++ given) ending)) ∧
            (ending = some .atEnd → rest.current = [] ∧
              rest.file.pageCount database.volume ≤ rest.nextPage)) ∨
        ∃ more, rest.current = [] ∧ Progress.scanNext database scan left rows =
          (database, .waiting (.scanning rest more (rows ++ given)))) := by
  refine ⟨(scan.give left).1, (scan.give left).2, List.take_append_drop left scan.current,
    ⟨rfl, rfl, rfl⟩, ?_⟩
  unfold Progress.scanNext
  dsimp only
  split
  · refine Or.inl ⟨none, rfl, ?_⟩
    intro impossible
    cases impossible
  · rename_i short
    have drained : (scan.give left).1.current = [] := by
      apply List.drop_eq_nil_of_le
      unfold Scan.give at short
      rw [List.length_take] at short
      omega
    split
    · rename_i behind
      exact Or.inl ⟨some .atEnd, rfl, fun _ => ⟨drained, of_decide_eq_true behind⟩⟩
    · exact Or.inr ⟨_, drained, rfl⟩

theorem Isolated.goes (isolated : database.Isolated start journal) (setUp : start.SetUp)
    {task : Task} (proper : task.Proper start.catalog)
    (permits : database.pool.locks.Permits task.request) :
    Isolated.Goes database start journal task (Progress.ofTask database task) := by
  cases task with
  | fetching transaction page access => exact isolated.goes_fetch permits
  | inserting insertion handover => exact isolated.goes_insert setUp proper permits
  | deleting transaction row page handover => exact isolated.goes_delete proper permits
  | scanning scan left rows =>
      unfold Progress.ofTask Progress.scan
      dsimp only
      cases loads : database.load scan.page with
      | error fault => exact .unchanged isolated rfl (.refl _) rfl
      | ok found =>
          obtain ⟨loaded, frame, content⟩ := found
          obtain ⟨reached, _, locks, _⟩ := isolated.load loads
          have keeps := keeps_load isolated.sound loads
          obtain ⟨rest, given, _, own, ⟨ending, finishes, _⟩ | ⟨more, drained, waits⟩⟩ :=
            scanNext_cases loaded (scan.take content) left rows
          · simp only [finishes]
            exact .unchanged reached locks keeps rfl
          · simp only [waits]
            exact .waiting reached locks keeps drained
              ⟨own.1, congrArg TableFile.id own.2.1, fun _ => rfl⟩
  | locking request => cases proper
  | filling insertion table left stored last => cases proper

structure Isolated.Begins (database start : Database) (journal : Journal) (operation : Operation)
    (next : Database × Progress) : Prop where
  isolated : next.1.Isolated start journal
  locks : next.1.pool.locks = database.pool.locks
  keeps : database.Keeps next.1
  proper : ∀ task, next.2 = .waiting task → task.Proper start.catalog ∧ task.Does operation
  quiet : ∀ outcome, next.2 = .finished outcome → outcome.isChange = false

private theorem Isolated.Begins.finished (isolated : database.Isolated start journal)
    {operation : Operation} {outcome : Outcome} (quiet : outcome.isChange = false) :
    Isolated.Begins database start journal operation (database, .finished outcome) := by
  refine ⟨isolated, rfl, .refl _, ?_, ?_⟩
  · intro task impossible
    cases impossible
  · intro other same
    cases same
    exact quiet

private theorem Isolated.Begins.waiting {next : Database} (isolated : next.Isolated start journal)
    (locks : next.pool.locks = database.pool.locks) (keeps : database.Keeps next)
    {operation : Operation} {task : Task} (proper : task.Proper start.catalog)
    (does : task.Does operation) :
    Isolated.Begins database start journal operation (next, .waiting task) := by
  refine ⟨isolated, locks, keeps, ?_, ?_⟩
  · intro other same
    cases same
    exact ⟨proper, does⟩
  · intro outcome impossible
    cases impossible

theorem Isolated.begins (isolated : database.Isolated start journal) (setUp : start.SetUp)
    {operation : Operation} (transactional : operation.Transactional) :
    Isolated.Begins database start journal operation
      (Progress.ofOperation database operation) := by
  cases operation with
  | fetch transaction page access =>
      exact .waiting isolated rfl (.refl _) trivial ⟨rfl, rfl, fun _ => rfl⟩
  | insert transaction table row =>
      unfold Progress.ofOperation Progress.insertTable
      dsimp only
      cases registered : database.catalog.file table with
      | error fault => exact .finished isolated rfl
      | ok file =>
          dsimp only
          unfold Progress.insertFile Insertion.start
          by_cases same : row.schema = file.schema
          · rw [if_pos same]
            cases advances : Insertion.advance database ⟨transaction, file, row, 0, 0⟩ 0 with
            | mk next rest =>
                obtain ⟨advanced, locks, keeps⟩ := isolated.advance setUp registered advances
                have carries := Insertion.carries_advance advances
                refine .waiting advanced locks keeps ⟨rfl, ?_, table, ?_⟩
                  ⟨carries.transaction, ?_, ?_⟩
                · rw [carries.row]
                  exact transactional
                · rw [carries.file, ← isolated.catalog]
                  exact registered
                · rw [isolated.catalog] at registered
                  change some table = some rest.file.id
                  rw [carries.file, (setUp.sound.file registered).1]
                · intro outcome
                  cases outcome with
                  | inserted stored page =>
                      simp only [Task.change?, Operation.change?, carries.row]
                  | _ => rfl
          · rw [if_neg same]
            exact .finished isolated rfl
  | delete transaction row =>
      unfold Progress.ofOperation Progress.deleteTable Progress.deleteFile
      dsimp only
      cases recorded : row.record with
      | none => exact .finished isolated rfl
      | some record =>
          dsimp only
          cases registered : database.catalog.file record.page.table with
          | error fault => exact .finished isolated rfl
          | ok file =>
              dsimp only
              split
              · refine .waiting isolated rfl (.refl _) rfl ⟨rfl, ?_, ?_⟩
                · change row.record.map _ = some record.page.table
                  rw [recorded]
                  rfl
                · intro outcome
                  cases outcome <;> rfl
              · exact .finished isolated rfl
  | scan scan count =>
      unfold Progress.ofOperation
      dsimp only
      obtain ⟨rest, given, _, own, ⟨ending, finishes, _⟩ | ⟨more, drained, waits⟩⟩ :=
        scanNext_cases database scan count []
      · rw [finishes]
        exact .finished isolated rfl
      · rw [waits]
        refine .waiting isolated rfl (.refl _) drained ⟨own.1, ?_, fun _ => rfl⟩
        change some scan.file.id = some rest.file.id
        rw [own.2.1]
  | lock request => cases transactional
  | insertInto transaction file row => cases transactional
  | fill transaction table row copies => cases transactional
  | deleteFrom transaction file row => cases transactional

/-! ### What transactions are shown -/

theorem Isolated.fetch_shows (isolated : database.Isolated start journal)
    {transaction : TransactionId} {page : PageId} {access : Access}
    (permits : database.pool.locks.Permits ⟨transaction, page, access.mode⟩) {frame : Nat}
    {content : Page}
    (fetches : (Progress.fetch database transaction page access).2 =
      .finished (.fetched frame content)) :
    content.id = page ∧ content.Shows (journal.view start.stored transaction) := by
  unfold Progress.fetch at fetches
  dsimp only at fetches
  cases loads : (database.noteAccess transaction page access).load page with
  | error fault =>
      rw [loads] at fetches
      cases fetches
  | ok found =>
      obtain ⟨loaded, inFrame, onPage⟩ := found
      rw [loads] at fetches
      cases fetches
      obtain ⟨reached, resident, locks, _, _⟩ := isolated.reach permits loads
      obtain ⟨held, mode, _⟩ := permits
      rw [← locks] at mode
      exact ⟨reached.sound.id_eq resident, reached.shows_view resident mode⟩

/-- A scan that comes to a page takes the rows of the page, which has what was committed on it, with
the transaction's own changes. Or else the scan stays where it is. -/
theorem Isolated.scan_takes (isolated : database.Isolated start journal) {scan : Scan}
    (permits : database.pool.locks.Permits ⟨scan.transaction, scan.page, .shared⟩)
    (left : Nat) (rows : List Row) :
    (∃ fault, (Progress.scan database scan left rows).2 =
      .finished (.scanned scan rows (some (.failed fault)))) ∨
    ∃ (loaded : Database) (content : Page), content.WellFormed ∧ content.id = scan.page ∧
      (∀ file, start.catalog.file scan.page.table = .ok file → content.schema = file.schema) ∧
        content.Shows (journal.view start.stored scan.transaction) ∧
          Progress.scan database scan left rows =
            Progress.scanNext loaded (scan.take content) left rows := by
  unfold Progress.scan
  cases loads : database.load scan.page with
  | error fault => exact Or.inl ⟨fault, rfl⟩
  | ok found =>
      obtain ⟨loaded, frame, content⟩ := found
      obtain ⟨reached, resident, locks, _⟩ := isolated.load loads
      obtain ⟨held, mode, _⟩ := permits
      rw [← locks] at mode
      exact Or.inr ⟨loaded, content, (reached.backs _ _ _ resident).wellFormed,
        reached.sound.id_eq resident, fun _ registered => reached.schema_eq resident registered,
        reached.shows_view resident mode, rfl⟩

/-- A scan that comes to a page gives out or keeps the rows of the page, which has what was
committed on it, with the transaction's own changes. Or else the scan stays where it is. -/
theorem Isolated.scan_shows (isolated : database.Isolated start journal) {scan : Scan}
    (permits : database.pool.locks.Permits ⟨scan.transaction, scan.page, .shared⟩)
    (left : Nat) (rows : List Row) :
    (∃ fault, (Progress.scan database scan left rows).2 =
      .finished (.scanned scan rows (some (.failed fault)))) ∨
    ∃ (content : Page) (rest : Scan) (given : List Row), content.id = scan.page ∧
      content.Shows (journal.view start.stored scan.transaction) ∧
        given ++ rest.current = rows ++ content.rows ∧
          ((∃ ending, (Progress.scan database scan left rows).2 =
              .finished (.scanned rest given ending)) ∨
            ∃ more, (Progress.scan database scan left rows).2 =
              .waiting (.scanning rest more given)) := by
  rcases isolated.scan_takes permits left rows with fails |
    ⟨loaded, content, _, id, _, shows, takes⟩
  · exact Or.inl fails
  · obtain ⟨rest, given, whole, _, next⟩ := scanNext_cases loaded (scan.take content) left rows
    refine Or.inr ⟨content, rest, rows ++ given, id, shows, ?_, ?_⟩
    · rw [List.append_assoc, whole]
      rfl
    · rw [takes]
      rcases next with ⟨ending, finishes, _⟩ | ⟨more, _, waits⟩
      · exact Or.inl ⟨ending, by simp only [finishes]⟩
      · exact Or.inr ⟨more, by simp only [waits]⟩

end

end Database

end RowStore
