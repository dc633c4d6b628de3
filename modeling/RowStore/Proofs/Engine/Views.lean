import RowStore.Proofs.Database.Samples
import RowStore.Proofs.Engine.Isolation

/-!
Views: what a transaction sees of the pages that it holds, and that nobody else changes it.
-/

set_option autoImplicit false

namespace RowStore

/-! ### Views in journals -/

namespace Journal

theorem view_note (journal : Journal) (transaction : TransactionId) (change : Change)
    (initial : RecordId → Option (List Field)) :
    (journal.note transaction change).view initial transaction =
      replay (journal.view initial transaction) [change] := by
  unfold view
  rw [← replay_append]
  simp only [note, if_true]
  rfl

theorem view_note_of_ne (journal : Journal) {transaction other : TransactionId}
    (different : transaction ≠ other) (change : Change)
    (initial : RecordId → Option (List Field)) :
    (journal.note other change).view initial transaction = journal.view initial transaction := by
  unfold view
  simp only [note, if_neg different]
  rfl

theorem view_commit_of_ne (journal : Journal) {transaction other : TransactionId}
    (different : transaction ≠ other) (initial : RecordId → Option (List Field))
    {record : RecordId} (untouched : ∀ change ∈ journal.pending other, change.record ≠ record) :
    (journal.commit other).view initial transaction record =
      journal.view initial transaction record := by
  unfold view
  simp only [commit, abort, if_neg different]
  apply replay_congr
  unfold onDisk
  rw [List.map_append, replay_append]
  apply replay_of_untouched
  intro change member
  obtain ⟨whole, memberWhole, rfl⟩ := List.mem_map.mp member
  exact untouched whole memberWhole

theorem after_turn_cases (journal : Journal) (engine : Engine) (ticket : Nat) :
    journal.after engine (.turn ticket) = journal ∨
      ∃ task outcome change, engine.tasks[ticket]? = some task ∧
        (engine.turn ticket).2 = .finished outcome ∧ task.change? outcome = some change ∧
          journal.after engine (.turn ticket) = journal.note task.transaction change := by
  unfold after
  dsimp only
  split
  · rename_i task outcome found finishes
    split
    · rename_i change changes
      exact Or.inr ⟨task, outcome, change, found, finishes, changes, rfl⟩
    · exact Or.inl rfl
  · exact Or.inl rfl

/-- Between two journals the transaction itself made the changes that it sees on the page. -/
def Extends (before after : Journal) (initial : RecordId → Option (List Field))
    (transaction : TransactionId) (page : PageId) : Prop :=
  ∃ own, after.pending transaction = before.pending transaction ++ own ∧
    ∀ slot, after.view initial transaction ⟨page, slot⟩ =
      replay (before.view initial transaction) own ⟨page, slot⟩

end Journal

/-! ### Guarantees -/

namespace Engine

structure Guarantees (engine : Engine) (start : Database) (journal : Journal) : Prop where
  /-- A page with changes is exclusively its owner's, which is known to write it. -/
  dirty : ∀ page frame content owner,
    engine.database.pool.residentFrame? page = some (frame, content) →
      content.owner = some owner →
        engine.database.pool.locks.lockMode? owner page = some .exclusive ∧
          page ∈ engine.database.pool.writtenBy owner
  /-- A page without changes is what is read from the disk. -/
  clean : ∀ page frame content,
    engine.database.pool.residentFrame? page = some (frame, content) → content.owner = none →
      engine.database.diskPage? page = some content
  /-- The disk has what it had at the start, with what was committed since, in that order. -/
  disk : engine.database.stored = journal.onDisk start.stored
  /-- A fetched page has what was committed on it, with the transaction's own changes. -/
  fetched : ∀ (ticket : Nat) transaction page access frame content,
    engine.tasks[ticket]? = some (.fetching transaction page access) →
      (engine.turn ticket).2 = .finished (.fetched frame content) →
        content.id = page ∧ content.Shows (journal.view start.stored transaction)
  /-- So has the page whose rows a scan copies when it comes to the page. It gives them out after
  those that it has, or keeps them. -/
  scanned : ∀ (ticket : Nat) scan left rows,
    engine.tasks[ticket]? = some (.scanning scan left rows) →
      (engine.turn ticket).2 = .asleep ∨
      (∃ fault, (engine.turn ticket).2 =
        .finished (.scanned scan rows (some (.failed fault)))) ∨
      ∃ (content : Page) (rest : Scan) (given : List Row), content.id = scan.page ∧
        content.Shows (journal.view start.stored scan.transaction) ∧
          given ++ rest.current = rows ++ content.rows ∧
            ((∃ ending, (engine.turn ticket).2 = .finished (.scanned rest given ending)) ∨
              ∃ more, (engine.turn ticket).1.tasks[ticket]? = some (.scanning rest more given))
  /-- A row is stored where the transaction sees none, and deleted where it sees one. -/
  changed : ∀ (ticket : Nat) task outcome change, engine.tasks[ticket]? = some task →
    (engine.turn ticket).2 = .finished outcome → task.change? outcome = some change →
      (journal.view start.stored task.transaction change.record).isSome = change.fields.isNone
  /-- What a transaction sees of a page that it holds is changed by nobody else. -/
  steady : ∀ action transaction page held,
    engine.database.pool.locks.lockMode? transaction page = some held →
      action ≠ .commit transaction → action ≠ .abort transaction →
        journal.Extends (journal.after engine action) start.stored transaction page

section

variable {start : Database} {engine : Engine} {journal : Journal}

private theorem Guarded.fetched (guarded : engine.Guarded start journal) {ticket : Nat}
    {transaction : TransactionId} {page : PageId} {access : Access} {frame : Nat} {content : Page}
    (found : engine.tasks[ticket]? = some (.fetching transaction page access))
    (finishes : (engine.turn ticket).2 = .finished (.fetched frame content)) :
    content.id = page ∧ content.Shows (journal.view start.stored transaction) := by
  cases guarded.turnsTo found with
  | asleep comes still =>
      rw [comes] at finishes
      cases finishes
  | refused fault comes awake =>
      rw [comes] at finishes
      cases finishes
  | granted comes awake permits =>
      rw [comes] at finishes
      exact (guarded.checked ticket _).fetch_shows permits (eq_finished_of_note finishes)

private theorem Guarded.scanned (guarded : engine.Guarded start journal) {ticket : Nat}
    {scan : Scan} {left : Nat} {rows : List Row}
    (found : engine.tasks[ticket]? = some (.scanning scan left rows)) :
    (engine.turn ticket).2 = .asleep ∨
    (∃ fault, (engine.turn ticket).2 =
      .finished (.scanned scan rows (some (.failed fault)))) ∨
    ∃ (content : Page) (rest : Scan) (given : List Row), content.id = scan.page ∧
      content.Shows (journal.view start.stored scan.transaction) ∧
        given ++ rest.current = rows ++ content.rows ∧
          ((∃ ending, (engine.turn ticket).2 = .finished (.scanned rest given ending)) ∨
            ∃ more, (engine.turn ticket).1.tasks[ticket]? =
              some (.scanning rest more given)) := by
  cases guarded.turnsTo found with
  | asleep comes still =>
      rw [comes]
      exact Or.inl rfl
  | refused fault comes awake =>
      rw [comes]
      exact Or.inr (Or.inl ⟨fault, rfl⟩)
  | granted comes awake permits =>
      rw [comes]
      have checked := guarded.checked ticket (.scanning scan left rows)
      right
      rcases checked.scan_shows permits left rows with ⟨fault, finishes⟩ |
        ⟨content, rest, given, id, shows, whole, ⟨ending, finishes⟩ | ⟨more, waits⟩⟩
      · left
        refine ⟨fault, ?_⟩
        change (engine.note ticket _ (Progress.scan _ scan left rows).2).2 = _
        rw [finishes]
        rfl
      · right
        refine ⟨content, rest, given, id, shows, whole, Or.inl ⟨ending, ?_⟩⟩
        change (engine.note ticket _ (Progress.scan _ scan left rows).2).2 = _
        rw [finishes]
        rfl
      · right
        refine ⟨content, rest, given, id, shows, whole, Or.inr ⟨more, ?_⟩⟩
        rw [tasks_note, if_pos rfl]
        change (Progress.scan _ scan left rows).2.task? = _
        rw [waits]
        rfl

/-- A change is on the page that its task has locked, and stores a row in place of none or deletes
one that the transaction sees. -/
theorem Guarded.changed (guarded : engine.Guarded start journal) (setUp : start.SetUp)
    {ticket : Nat} {task : Task} {outcome : Outcome} {change : Change}
    (found : engine.tasks[ticket]? = some task)
    (finishes : (engine.turn ticket).2 = .finished outcome)
    (changes : task.change? outcome = some change) :
    change.record.page = task.request.page ∧
      (journal.view start.stored task.transaction change.record).isSome = change.fields.isNone := by
  cases guarded.turnsTo found with
  | asleep comes still =>
      rw [comes] at finishes
      cases finishes
  | refused fault comes awake =>
      rw [comes] at finishes
      cases finishes
      rw [task.change?_fail fault] at changes
      cases changes
  | granted comes awake permits =>
      rw [comes] at finishes
      have proper := guarded.proper ticket task found
      have goes := (guarded.checked ticket task).goes setUp proper permits
      have ends := eq_finished_of_note finishes
      exact ⟨goes.place outcome change ends changes, goes.fits outcome change ends changes⟩

private theorem Guarded.steady (guarded : engine.Guarded start journal)
    {action : EngineAction} {transaction : TransactionId} {page : PageId} {held : LockMode}
    (holds : engine.database.pool.locks.lockMode? transaction page = some held)
    (notCommitted : action ≠ .commit transaction) (notAborted : action ≠ .abort transaction) :
    journal.Extends (journal.after engine action) start.stored transaction page := by
  have same : journal.Extends journal start.stored transaction page :=
    ⟨[], (List.append_nil _).symm, fun _ => rfl⟩
  cases action with
  | begin ticket operation => exact same
  | turn ticket =>
      rcases journal.after_turn_cases engine ticket with idle | ⟨task, _, change, _, _, _, noted⟩
      · rw [idle]
        exact same
      · rw [noted]
        by_cases own : transaction = task.transaction
        · subst own
          refine ⟨[change], ?_, fun slot => ?_⟩
          · simp [Journal.note]
          · rw [journal.view_note]
        · refine ⟨[], ?_, fun slot => ?_⟩
          · simp [Journal.note, own]
          · rw [journal.view_note_of_ne own]
            rfl
  | commit owner =>
      have different : transaction ≠ owner := fun own => notCommitted (by rw [own])
      unfold Journal.after
      dsimp only
      split
      · refine ⟨[], ?_, fun slot => ?_⟩
        · simp [Journal.commit, Journal.abort, different]
        · apply journal.view_commit_of_ne different
          -- The pages that the owner changed are its own, and this one is held by another.
          intro change member onPage
          obtain ⟨frame, content, found, owned⟩ := guarded.database.pending owner change member
          rw [onPage] at found
          exact different (guarded.database.owner_eq found owned holds)
      · exact same
  | abort owner =>
      have different : transaction ≠ owner := fun own => notAborted (by rw [own])
      refine ⟨[], ?_, fun slot => ?_⟩
      · simp [Journal.after, Journal.abort, different]
      · unfold Journal.after Journal.view
        dsimp only
        simp only [Journal.abort, if_neg different]
        rfl

theorem Guarded.guarantees (guarded : engine.Guarded start journal) (setUp : start.SetUp) :
    engine.Guarantees start journal := by
  constructor
  · intro page frame content owner found owned
    obtain ⟨member, _⟩ := guarded.database.dirty page frame content owner found owned
    exact ⟨guarded.database.written owner page member, member⟩
  · exact guarded.database.clean
  · exact guarded.database.disk
  · intro ticket transaction page access frame content found finishes
    exact guarded.fetched found finishes
  · intro ticket scan left rows found
    exact guarded.scanned found
  · intro ticket task outcome change found finishes changes
    exact (guarded.changed setUp found finishes changes).2
  · intro action transaction page held holds notCommitted notAborted
    exact guarded.steady holds notCommitted notAborted

end

/-- Transactions are isolated in every run of theirs on a database that was just set up. -/
theorem transactions_isolated {start : Database} (setUp : start.SetUp)
    {actions : List EngineAction} (transactional : (new start).TransactionalFrom actions) :
    ((new start).record .empty actions).1.Guarantees start
      ((new start).record .empty actions).2 :=
  ((isolated_new setUp).record setUp transactional).guarantees setUp

/-- A row is added and committed. The reader that slept for its page goes on. -/
theorem transactions_isolated_reader :
    let start : Database := Samples.created 2
    let page : PageId := Samples.rows.pageId 0
    let actions : List EngineAction :=
      [.begin 0 (.insert ⟨1⟩ ⟨0⟩ (Samples.row 7)), .turn 0,
        .begin 1 (.fetch ⟨2⟩ page .read), .turn 1, .commit ⟨1⟩]
    start.SetUp ∧ (new start).TransactionalFrom actions ∧
      ((new start).record .empty actions).1.Guarantees start
        ((new start).record .empty actions).2 ∧
      ((new start).record .empty actions).2.committed = [⟨⟨page, 0⟩, some [.int 7]⟩] ∧
      (((new start).record .empty actions).1.turn 1).2 ≠ .asleep := by
  intro start page actions
  have setUp : start.SetUp := Samples.setUp_created (by decide)
  have transactional : (new start).TransactionalFrom actions := by decide +kernel
  exact ⟨setUp, transactional, transactions_isolated setUp transactional, by decide +kernel,
    by decide +kernel⟩

end Engine

end RowStore
