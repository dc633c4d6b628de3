import RowStore.Proofs.Database.Additions
import RowStore.Proofs.Database.Samples
import RowStore.Proofs.Engine.Inserters
import RowStore.Proofs.Engine.Views

/-!
Intake: transactions that only store rows in one table never fail and never come to a standstill, as
long as the table fits in the pool, and the table has each row that one of them committed once.
-/

set_option autoImplicit false

namespace RowStore.Engine

section

variable {start : Database} {engine : Engine} {journal : Journal} {file : TableFile}

/-! ### Rows that inserters add -/

private theorem Inserting.holds_of_pending (inserting : engine.Inserting start journal file)
    {transaction : TransactionId} (changed : journal.pending transaction ≠ []) :
    ∃ page, engine.database.pool.locks.lockMode? transaction page = some .exclusive := by
  obtain ⟨change, member⟩ := List.exists_mem_of_ne_nil _ changed
  obtain ⟨frame, content, found, owned⟩ := inserting.database.pending transaction change member
  obtain ⟨written, _⟩ := inserting.database.dirty _ frame content transaction found owned
  exact ⟨_, inserting.database.written transaction _ written⟩

private theorem Inserting.pending_alone (inserting : engine.Inserting start journal file)
    {transaction : TransactionId} (changed : journal.pending transaction ≠ [])
    (other : TransactionId) (different : other ≠ transaction) : journal.pending other = [] := by
  by_contra also
  obtain ⟨page, holds⟩ := inserting.holds_of_pending changed
  obtain ⟨elsewhere, holdsOther⟩ := inserting.holds_of_pending also
  exact different (inserting.gated.eq inserting.database.exclusive holdsOther holds)

private theorem Inserting.addsTo (inserting : engine.Inserting start journal file)
    (setUp : start.SetUp) {ticket : Nat} {task : Task} {outcome : Outcome} {change : Change}
    (found : engine.tasks[ticket]? = some task)
    (finishes : (engine.turn ticket).2 = .finished outcome)
    (changes : task.change? outcome = some change) :
    change.AddsTo file.id (journal.view start.stored task.transaction) := by
  obtain ⟨place, fits⟩ := inserting.changed setUp found finishes changes
  obtain ⟨insertion, rfl, enters⟩ := inserting.enters ticket task found
  have stores : change.fields.isSome = true := by
    cases outcome with
    | inserted row page =>
        obtain ⟨record, _, rfl⟩ := Option.map_eq_some_iff.mp changes
        rfl
    | _ => cases changes
  refine ⟨?_, stores, ?_⟩
  · rw [place]
    exact congrArg TableFile.id enters.own
  · rw [Option.isNone_eq_false_iff.mpr stores] at fits
    exact Option.isNone_iff_eq_none.mp (Option.isSome_eq_false_iff.mp fits)

theorem Inserting.gathers_after (inserting : engine.Inserting start journal file)
    (setUp : start.SetUp) (gathers : journal.Gathers file.id start.stored)
    (action : EngineAction) :
    (journal.after engine action).Gathers file.id start.stored := by
  cases action with
  | begin ticket operation => exact gathers
  | turn ticket =>
      rcases journal.after_turn_cases engine ticket with same |
        ⟨task, outcome, change, found, finishes, changes, noted⟩
      · rw [same]
        exact gathers
      · rw [noted]
        exact gathers.note (inserting.addsTo setUp found finishes changes)
  | commit transaction =>
      unfold Journal.after
      dsimp only
      split
      · exact gathers.commit inserting.pending_alone
      · exact gathers
  | abort transaction => exact gathers.abort transaction

theorem Inserting.gathers (inserting : engine.Inserting start journal file) (setUp : start.SetUp)
    (gathers : journal.Gathers file.id start.stored) {actions : List EngineAction}
    (inserts : engine.Throughout
      (fun engine action => Inserts file engine action ∧ engine.Ample file) actions) :
    (engine.record journal actions).2.Gathers file.id start.stored := by
  induction actions generalizing engine journal with
  | nil => exact gathers
  | cons action rest ih =>
      obtain ⟨⟨now, ample⟩, later⟩ := inserts
      exact ih (inserting.perform setUp ample now) (inserting.gathers_after setUp gathers action)
        later

/-! ### From an engine at rest on -/

theorem Rested.inserting (rested : engine.Rested start)
    (registered : start.catalog.file file.id = .ok file)
    (readable : engine.database.Readable file.id) :
    engine.Inserting { start with volume := engine.database.volume } Journal.empty file :=
  { rested.sequenced with
    registered := registered
    readable := readable
    fits := rested.rest.fits
    gated := by
      intro transaction page held holds
      cases (rested.rest.free transaction page).symm.trans holds
    inRange := by
      intro ticket insertion handover found
      cases (rested.still ticket).symm.trans found
    enters := by
      intro ticket task found
      cases (rested.still ticket).symm.trans found }

end

end RowStore.Engine
