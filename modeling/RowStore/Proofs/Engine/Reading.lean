import RowStore.Proofs.Database.Listing
import RowStore.Proofs.Engine.Calls
import RowStore.Proofs.Engine.Turns
import RowStore.Proofs.Engine.Views

/-!
Reading: what a scan has given out of the pages that it took is what its transaction sees there, and
as long as the transaction goes on, and changes nothing there itself, it sees nothing else.
-/

set_option autoImplicit false

namespace RowStore

/-! ### Rows of the first pages -/

namespace TableFile

structure Lists (file : TableFile) (contents : RecordId → Option (List Field)) (limit : Nat)
    (rows : List Row) : Prop where
  ordered : rows.Pairwise Row.Precedes
  mem_iff : ∀ row, row ∈ rows ↔ ∃ number slot fields, number < limit ∧
    contents ⟨file.pageId number, slot⟩ = some fields ∧
      row = ⟨file.schema, fields, some ⟨file.pageId number, slot⟩⟩

section

variable {file : TableFile} {contents others : RecordId → Option (List Field)}
  {limit number : Nat} {rows again : List Row}

theorem lists_zero (file : TableFile) (contents : RecordId → Option (List Field)) :
    file.Lists contents 0 [] := by
  refine ⟨.nil, ?_⟩
  intro row
  constructor
  · intro impossible
    cases impossible
  · rintro ⟨number, _, _, below, _⟩
    exact absurd below (Nat.not_lt_zero number)

theorem Lists.congr (lists : file.Lists contents limit rows)
    (same : ∀ number slot, number < limit →
      others ⟨file.pageId number, slot⟩ = contents ⟨file.pageId number, slot⟩) :
    file.Lists others limit rows := by
  refine ⟨lists.ordered, ?_⟩
  intro row
  rw [lists.mem_iff]
  constructor
  · rintro ⟨number, slot, fields, below, found, rfl⟩
    exact ⟨number, slot, fields, below, (same number slot below).trans found, rfl⟩
  · rintro ⟨number, slot, fields, below, found, rfl⟩
    exact ⟨number, slot, fields, below, (same number slot below).symm.trans found, rfl⟩

theorem Lists.append (lists : file.Lists contents number rows) {page : Page}
    (wellFormed : page.WellFormed) (id : page.id = file.pageId number)
    (schema : page.schema = file.schema) (shows : page.Shows contents) :
    file.Lists contents (number + 1) (rows ++ page.rows) := by
  have onPage (row : Row) : row ∈ page.rows ↔ ∃ slot fields,
      contents ⟨file.pageId number, slot⟩ = some fields ∧
        row = ⟨file.schema, fields, some ⟨file.pageId number, slot⟩⟩ := by
    rw [Page.mem_rows]
    constructor
    · rintro ⟨slot, found⟩
      obtain ⟨sameSchema, _, recorded⟩ := wellFormed.rows slot row found
      have shown := shows slot
      rw [found, id, Option.map_some] at shown
      refine ⟨slot, row.fields, shown.symm, ?_⟩
      rw [← schema, ← sameSchema, ← id, ← recorded]
    · rintro ⟨slot, fields, found, rfl⟩
      have shown := shows slot
      rw [id, found] at shown
      obtain ⟨row, inSlot, rfl⟩ := Option.map_eq_some_iff.mp shown
      obtain ⟨sameSchema, _, recorded⟩ := wellFormed.rows slot row inSlot
      refine ⟨slot, ?_⟩
      rw [inSlot, ← schema, ← sameSchema, ← id, ← recorded]
  constructor
  · refine List.pairwise_append.mpr ⟨lists.ordered, wellFormed.rows_ordered, ?_⟩
    intro before memberBefore row member
    obtain ⟨earlier, _, _, below, _, rfl⟩ := (lists.mem_iff before).mp memberBefore
    obtain ⟨slot, _, _, rfl⟩ := (onPage row).mp member
    exact ⟨_, _, rfl, rfl, RecordId.compare_of_number_lt file.id below _ slot⟩
  · intro row
    rw [List.mem_append, lists.mem_iff, onPage]
    constructor
    · rintro (⟨earlier, slot, fields, below, found, rfl⟩ | ⟨slot, fields, found, rfl⟩)
      · exact ⟨earlier, slot, fields, Nat.lt_succ_of_lt below, found, rfl⟩
      · exact ⟨number, slot, fields, Nat.lt_succ_self _, found, rfl⟩
    · rintro ⟨earlier, slot, fields, below, found, rfl⟩
      rcases Nat.lt_succ_iff_lt_or_eq.mp below with before | rfl
      · exact Or.inl ⟨earlier, slot, fields, before, found, rfl⟩
      · exact Or.inr ⟨slot, fields, found, rfl⟩

/-- Two listings of the same contents are one if both are of all pages that have rows. -/
theorem Lists.unique {more : Nat} (lists : file.Lists contents limit rows)
    (listsAgain : file.Lists contents more again)
    (beyond : ∀ number slot, limit ≤ number → contents ⟨file.pageId number, slot⟩ = none)
    (beyondAgain : ∀ number slot, more ≤ number → contents ⟨file.pageId number, slot⟩ = none) :
    rows = again := by
  have inside {bound : Nat}
      (none : ∀ number slot, bound ≤ number → contents ⟨file.pageId number, slot⟩ = none)
      {number slot : Nat} {fields : List Field}
      (found : contents ⟨file.pageId number, slot⟩ = some fields) : number < bound := by
    by_contra outside
    rw [none number slot (Nat.le_of_not_lt outside)] at found
    cases found
  apply lists.ordered.eq_of_mem_iff listsAgain.ordered
  intro row
  rw [lists.mem_iff, listsAgain.mem_iff]
  constructor
  · rintro ⟨number, slot, fields, _, found, rfl⟩
    exact ⟨number, slot, fields, inside beyondAgain found, found, rfl⟩
  · rintro ⟨number, slot, fields, _, found, rfl⟩
    exact ⟨number, slot, fields, inside beyond found, found, rfl⟩

end

end TableFile

theorem Journal.noting_scanning (journal : Journal) (scan : Scan) (left : Nat) (rows : List Row)
    (progress : Progress) : journal.noting (.scanning scan left rows) progress = journal := by
  cases progress with
  | waiting task => rfl
  | finished outcome => exact journal.noting_of_unchanged (by cases outcome <;> rfl)

namespace Engine

/-! ### Beside a transaction -/

def Beside (transaction : TransactionId) (table : TableId) (engine : Engine)
    (action : EngineAction) : Prop :=
  engine.Concurrent action ∧ Spares transaction table engine action

section

variable {start : Database} {engine : Engine} {journal : Journal} {action : EngineAction}
  {transaction : TransactionId}

/-- A transaction goes on seeing the same of a page that it holds and does not change. -/
theorem Guarded.view_after (guarded : engine.Guarded start journal) (setUp : start.SetUp)
    {page : PageId} {held : LockMode}
    (holds : engine.database.pool.locks.lockMode? transaction page = some held)
    (spares : Spares transaction page.table engine action) (slot : Nat) :
    (journal.after engine action).view start.stored transaction ⟨page, slot⟩ =
      journal.view start.stored transaction ⟨page, slot⟩ := by
  obtain ⟨notCommitted, notAborted, elsewhere⟩ := spares
  obtain ⟨own, pending, views⟩ :=
    (guarded.guarantees setUp).steady action transaction page held holds notCommitted notAborted
  rw [pending_after journal engine notCommitted notAborted] at pending
  rw [views, ← List.append_cancel_left pending]
  apply replay_of_untouched
  intro change member same
  exact elsewhere change member (congrArg (fun record => record.page.table) same)

end

/-! ### Pages that a transaction has read -/

/-- The reader has the file's pages below the limit locked, and sees these rows there. -/
structure Pins (engine : Engine) (start : Database) (journal : Journal) (file : TableFile)
    (reader : TransactionId) (limit : Nat) (rows : List Row) : Prop where
  guarded : engine.Guarded start journal
  held : ∀ number, number < limit → ∃ mode,
    engine.database.pool.locks.lockMode? reader (file.pageId number) = some mode
  lists : file.Lists (journal.view start.stored reader) limit rows

section

variable {start : Database} {engine : Engine} {journal : Journal} {file : TableFile}
  {reader : TransactionId} {limit : Nat} {rows : List Row}

theorem Guarded.pins_zero (guarded : engine.Guarded start journal) (file : TableFile)
    (reader : TransactionId) : engine.Pins start journal file reader 0 [] :=
  ⟨guarded, fun number below => absurd below (Nat.not_lt_zero number), file.lists_zero _⟩

theorem Pins.perform (pins : engine.Pins start journal file reader limit rows)
    (setUp : start.SetUp) {action : EngineAction} (beside : Beside reader file.id engine action) :
    (engine.perform action).Pins start (journal.after engine action) file reader limit rows := by
  obtain ⟨concurrent, spares⟩ := beside
  refine ⟨pins.guarded.perform setUp concurrent, ?_, pins.lists.congr ?_⟩
  · intro number below
    obtain ⟨mode, holds⟩ := pins.held number below
    obtain ⟨kept, keeps, _⟩ :=
      pins.guarded.keeps_lock setUp concurrent holds spares.1 spares.2.1
    exact ⟨kept, keeps⟩
  · intro number slot below
    obtain ⟨mode, holds⟩ := pins.held number below
    exact pins.guarded.view_after setUp holds spares slot

theorem Pins.take (pins : engine.Pins start journal file reader limit rows) {mode : LockMode}
    (holds : engine.database.pool.locks.lockMode? reader (file.pageId limit) = some mode)
    {page : Page} (wellFormed : page.WellFormed) (id : page.id = file.pageId limit)
    (schema : page.schema = file.schema)
    (shows : page.Shows (journal.view start.stored reader)) :
    engine.Pins start journal file reader (limit + 1) (rows ++ page.rows) := by
  refine ⟨pins.guarded, ?_, pins.lists.append wellFormed id schema shows⟩
  intro number below
  rcases Nat.lt_succ_iff_lt_or_eq.mp below with before | rfl
  · exact pins.held number before
  · exact ⟨mode, holds⟩

/-! ### Scans under way -/

/-- The scan is the reader's, of the file, and these rows with the ones that it has left are those
of the pages that it has taken. -/
structure Reading (engine : Engine) (start : Database) (journal : Journal) (file : TableFile)
    (reader : TransactionId) (scan : Scan) (rows : List Row) : Prop where
  own : scan.file = file
  mine : scan.transaction = reader
  pins : engine.Pins start journal file reader scan.nextPage (rows ++ scan.current)

variable {scan rest : Scan} {given : List Row}

theorem Guarded.reading (guarded : engine.Guarded start journal) (file : TableFile)
    (reader : TransactionId) :
    engine.Reading start journal file reader (Scan.start file reader) [] :=
  ⟨rfl, rfl, guarded.pins_zero file reader⟩

theorem Reading.perform (reading : engine.Reading start journal file reader scan rows)
    (setUp : start.SetUp) {action : EngineAction} (beside : Beside reader file.id engine action) :
    (engine.perform action).Reading start (journal.after engine action) file reader scan rows :=
  ⟨reading.own, reading.mine, reading.pins.perform setUp beside⟩

theorem Reading.give (reading : engine.Reading start journal file reader scan rows)
    (whole : given ++ rest.current = scan.current)
    (kept : rest.transaction = scan.transaction ∧ rest.file = scan.file ∧
      rest.nextPage = scan.nextPage) :
    engine.Reading start journal file reader rest (rows ++ given) := by
  obtain ⟨transaction, file, nextPage⟩ := kept
  refine ⟨file.trans reading.own, transaction.trans reading.mine, ?_⟩
  rw [nextPage, List.append_assoc, whole]
  exact reading.pins

theorem Reading.turn (reading : engine.Reading start journal file reader scan rows)
    (setUp : start.SetUp) (registered : start.catalog.file file.id = .ok file) {ticket : Nat}
    (spares : Spares reader file.id engine (.turn ticket)) {left : Nat} {taken : List Row}
    (found : engine.tasks[ticket]? = some (.scanning scan left taken)) :
    ((engine.turn ticket).2 = .asleep ∧ (engine.turn ticket).1.tasks = engine.tasks) ∨
    (∃ fault, (engine.turn ticket).2 =
      .finished (.scanned scan taken (some (.failed fault)))) ∨
    ∃ loaded content,
      engine.turn ticket =
        engine.note ticket (Progress.scanNext loaded (scan.take content) left taken).1
          (Progress.scanNext loaded (scan.take content) left taken).2 ∧
      (engine.turn ticket).1.Reading start (journal.after engine (.turn ticket)) file reader
        (scan.take content) rows := by
  have guarded := reading.pins.guarded
  have always : engine.Concurrent (.turn ticket) := trivial
  have onwards : (engine.turn ticket).1.Reading start (journal.after engine (.turn ticket)) file
      reader scan rows := reading.perform setUp ⟨always, spares⟩
  obtain ⟨rfl, rfl, _⟩ := reading
  cases guarded.turnsTo found with
  | asleep comes still =>
      rw [comes]
      exact Or.inl ⟨rfl, rfl⟩
  | refused fault comes awake =>
      rw [comes]
      exact Or.inr (Or.inl ⟨fault, rfl⟩)
  | granted comes awake permits =>
      right
      rcases (guarded.checked ticket _).scan_takes permits left taken with ⟨fault, fails⟩ |
        ⟨loaded, content, wellFormed, id, schema, shows, takes⟩
      · left
        refine ⟨fault, ?_⟩
        rw [comes]
        change (engine.note ticket _ (Progress.scan _ scan left taken).2).2 = _
        rw [fails]
        rfl
      · right
        obtain ⟨held, holds, _⟩ := permits
        rw [← guarded.locks_turn setUp found] at holds
        have drained : scan.current = [] := guarded.proper ticket _ found
        have unchanged : journal.after engine (.turn ticket) = journal := by
          rw [after_turn journal found comes]
          exact journal.noting_scanning scan left taken _
        rw [← unchanged] at shows
        have pins := onwards.pins
        rw [drained, List.append_nil] at pins
        refine ⟨loaded, content, ?_, rfl, rfl, ?_⟩
        · rw [comes]
          change engine.note ticket (Progress.scan _ scan left taken).1
            (Progress.scan _ scan left taken).2 = _
          rw [takes]
        · exact pins.take holds wellFormed id (schema _ registered) shows

/-- What a call left of the scan. A scan at its end has taken all pages of the file. -/
structure Returns (engine : Engine) (start : Database) (journal : Journal) (file : TableFile)
    (reader : TransactionId) (scan : Scan) (rows : List Row) (ending : Option ScanEnd) :
    Prop where
  reading : engine.Reading start journal file reader scan rows
  atEnd : ending = some .atEnd →
    scan.current = [] ∧ file.pageCount engine.database.volume ≤ scan.nextPage

/-- A scan gives out the rows that it has, and returns or goes on to the next page. -/
theorem Reading.next {ticket : Nat} {database : Database} {left : Nat} {taken : List Row}
    {next : Engine × Turn}
    (reading : next.1.Reading start journal file reader scan (rows ++ taken))
    (comes : next = engine.note ticket (Progress.scanNext database scan left taken).1
      (Progress.scanNext database scan left taken).2) :
    (∃ rest out ending, next.2 = .finished (.scanned rest out ending) ∧
      next.1.Returns start journal file reader rest (rows ++ out) ending) ∨
    ∃ rest more out, next.2 = .underWay ∧ next.1.tasks[ticket]? = some (.scanning rest more out) ∧
      next.1.Reading start journal file reader rest (rows ++ out) := by
  obtain ⟨rest, given, whole, kept, ⟨ending, finishes, atEnd⟩ | ⟨more, _, waits⟩⟩ :=
    Database.scanNext_cases database scan left taken
  · have gives := reading.give whole kept
    rw [List.append_assoc] at gives
    rw [finishes] at comes
    subst comes
    refine Or.inl ⟨rest, _, ending, rfl, gives, ?_⟩
    rw [← gives.own]
    exact atEnd
  · have gives := reading.give whole kept
    rw [List.append_assoc] at gives
    rw [waits] at comes
    subst comes
    exact Or.inr ⟨rest, more, _, rfl, tasks_note_waiting engine ticket database _, gives⟩

/-- What is under a ticket changes only when an operation begins or takes its turn there. -/
theorem tasks_perform_of_apart {ticket : Nat} {action : EngineAction}
    (unbegun : ∀ operation, action ≠ .begin ticket operation) (other : action ≠ .turn ticket) :
    (engine.perform action).tasks[ticket]? = engine.tasks[ticket]? := by
  cases action with
  | begin began operation =>
      have different : ticket ≠ began := fun same => unbegun operation (by rw [same])
      change (engine.begin began operation).1.tasks[ticket]? = _
      unfold Engine.begin
      dsimp only
      rw [tasks_note, if_neg different]
  | turn turned =>
      have different : ticket ≠ turned := fun same => other (by rw [same])
      change (engine.turn turned).1.tasks[ticket]? = _
      unfold Engine.turn
      split
      · rfl
      · dsimp only
        split
        · rfl
        · rw [tasks_note, if_neg different]
        · rw [tasks_note, if_neg different]
  | commit transaction => rfl
  | abort transaction => rfl

/-- An action that is not a turn under the ticket leaves the task there as it is. -/
theorem tasks_perform_of_ne {ticket : Nat} {task : Task} {action : EngineAction}
    (found : engine.tasks[ticket]? = some task) (concurrent : engine.Concurrent action)
    (other : action ≠ .turn ticket) :
    (engine.perform action).tasks[ticket]? = some task := by
  refine (tasks_perform_of_apart ?_ other).trans found
  rintro operation rfl
  cases found.symm.trans concurrent.1

variable {ending : Option ScanEnd} {out : List Row} {actions : List EngineAction}

theorem Reading.performEach (reading : engine.Reading start journal file reader scan rows)
    (setUp : start.SetUp) (beside : engine.Throughout (Beside reader file.id) actions) :
    (engine.performEach actions).Reading start (engine.record journal actions).2 file reader scan
      rows :=
  record_invariant (fun engine journal => engine.Reading start journal file reader scan rows)
    (fun _ _ _ reading beside => reading.perform setUp beside) reading beside

/-- From any moment at which the scan is under way, up to the turn that finishes the call. -/
theorem Reading.finishes {ticket left : Nat} {taken : List Row}
    (reading : engine.Reading start journal file reader scan (rows ++ taken))
    (setUp : start.SetUp) (registered : start.catalog.file file.id = .ok file)
    (found : engine.tasks[ticket]? = some (.scanning scan left taken))
    (finishes : Finishes ticket (.scanned rest out ending) engine actions)
    (unfailed : ∀ fault, ending ≠ some (.failed fault))
    (beside : engine.Throughout (Beside reader file.id) actions) :
    (engine.performEach actions).Returns start (engine.record journal actions).2 file reader rest
      (rows ++ out) ending := by
  generalize same : Outcome.scanned rest out ending = outcome at finishes
  induction finishes generalizing journal scan left taken with
  | @now engine finishes =>
      subst same
      rcases reading.turn setUp registered beside.1.2 found with ⟨asleep, _⟩ | ⟨fault, fails⟩ |
        ⟨loaded, content, comes, reached⟩
      · cases asleep.symm.trans finishes
      · cases fails.symm.trans finishes
        exact absurd rfl (unfailed fault)
      · rcases reached.next comes with ⟨_, _, _, answers, returns⟩ | ⟨_, _, _, underWay, _⟩
        · cases answers.symm.trans finishes
          exact returns
        · cases underWay.symm.trans finishes
  | @later engine action actions goesOn finishes ih =>
      have onwards := reading.perform setUp beside.1
      by_cases own : action = .turn ticket
      · subst own
        rcases reading.turn setUp registered beside.1.2 found with ⟨_, tasks⟩ | ⟨fault, fails⟩ |
          ⟨loaded, content, comes, reached⟩
        · have kept : (engine.turn ticket).1.tasks[ticket]? = some (.scanning scan left taken) := by
            rw [tasks]
            exact found
          exact ih onwards kept beside.2
        · exact absurd fails (goesOn rfl _)
        · rcases reached.next comes with ⟨_, _, _, answers, _⟩ | ⟨_, _, _, _, waits, again⟩
          · exact absurd answers (goesOn rfl _)
          · exact ih again waits beside.2
      · exact ih onwards (tasks_perform_of_ne found beside.1.1 own) beside.2

theorem Reading.calls (reading : engine.Reading start journal file reader scan rows)
    (setUp : start.SetUp) (registered : start.catalog.file file.id = .ok file) {count : Nat}
    (calls : Calls (.scan scan count) (.scanned rest out ending) engine actions)
    (unfailed : ∀ fault, ending ≠ some (.failed fault))
    (beside : engine.Throughout (Beside reader file.id) actions) :
    (engine.performEach actions).Returns start (engine.record journal actions).2 file reader rest
      (rows ++ out) ending := by
  have begun {ticket : Nat}
      (beside : Beside reader file.id engine (.begin ticket (.scan scan count))) :
      (engine.begin ticket (.scan scan count)).1.Reading start journal file reader scan
        (rows ++ []) := by
    rw [List.append_nil]
    exact reading.perform setUp beside
  have comes (ticket : Nat) : engine.begin ticket (.scan scan count) =
      engine.note ticket (Progress.scanNext engine.database scan count []).1
        (Progress.scanNext engine.database scan count []).2 := rfl
  cases calls with
  | atOnce ticket begins =>
      rcases (begun beside.1).next (comes ticket) with ⟨_, _, _, answers, returns⟩ |
        ⟨_, _, _, underWay, _⟩
      · cases answers.symm.trans begins
        exact returns
      · cases underWay.symm.trans begins
  | inTurns ticket begins finishes =>
      rcases (begun beside.1).next (comes ticket) with ⟨_, _, _, answers, _⟩ |
        ⟨_, _, _, _, waits, again⟩
      · cases answers.symm.trans begins
      · exact again.finishes setUp registered waits finishes unfailed beside.2

theorem Reading.reads (reading : engine.Reading start journal file reader scan rows)
    (setUp : start.SetUp) (registered : start.catalog.file file.id = .ok file)
    (reads : Reads engine scan actions given)
    (beside : engine.Throughout (Beside reader file.id) actions) :
    ∃ limit, file.pageCount (engine.performEach actions).database.volume ≤ limit ∧
      (engine.performEach actions).Pins start (engine.record journal actions).2 file reader limit
        (rows ++ given) := by
  induction reads generalizing journal rows with
  | last calls =>
      have returns := reading.calls setUp registered calls
        (fun fault impossible => by cases impossible) beside
      obtain ⟨drained, behind⟩ := returns.atEnd rfl
      have pins := returns.reading.pins
      rw [drained, List.append_nil] at pins
      exact ⟨_, behind, pins⟩
  | @more engine scan rest count actions between others out given calls reads ih =>
      rw [throughout_append, throughout_append] at beside
      obtain ⟨⟨besideCall, besideBetween⟩, besideRest⟩ := beside
      have returns := reading.calls setUp registered calls
        (fun fault impossible => by cases impossible) besideCall
      have onwards := returns.reading.performEach setUp besideBetween
      rw [← performEach_append, ← record_snd_append] at onwards
      rw [performEach_append, record_snd_append, ← List.append_assoc]
      exact ih onwards besideRest

end

end Engine

end RowStore
