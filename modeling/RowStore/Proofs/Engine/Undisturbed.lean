import RowStore.Proofs.Engine.Turns

/-!
Undisturbed operations: while a transaction is alone, each of its operations is granted every lock
at once. What an operation that ends has changed is noted, and nothing of it is left under way.
-/

set_option autoImplicit false

namespace RowStore

theorem Operation.change?_of_quiet (operation : Operation) {outcome : Outcome}
    (quiet : outcome.isChange = false) : operation.change? outcome = none := by
  cases outcome with
  | inserted row page => cases quiet
  | deleted page => cases quiet
  | _ => cases operation <;> rfl

def Journal.noteAny (journal : Journal) (transaction : TransactionId) : Option Change → Journal
  | none => journal
  | some change => journal.note transaction change

theorem Journal.noting_finished (journal : Journal) (task : Task) (outcome : Outcome) :
    journal.noting task (.finished outcome) =
      journal.noteAny task.transaction (task.change? outcome) := by
  unfold Journal.noting
  dsimp only
  cases task.change? outcome <;> rfl

namespace Engine

structure Attends (engine : Engine) (start : Database) (journal : Journal)
    (transaction : TransactionId) : Prop where
  isolated : engine.Isolated start journal
  idle : ∀ ticket : Nat, engine.tasks[ticket]? = none
  alone : engine.database.pool.locks.Alone transaction

/-- What an operation on a table comes to that ended with this outcome, and a change of a row if the
outcome is one. -/
structure Serves (engine next : Engine) (start : Database) (journal : Journal)
    (transaction : TransactionId) (table? : Option TableId) (outcome : Outcome)
    (change? : Option Change) : Prop where
  attends : next.Attends start (journal.noteAny transaction change?) transaction
  keeps : engine.database.Keeps next.database
  changes : change?.isSome = outcome.isChange
  place : ∀ change, change? = some change → table? = some change.record.page.table
  fits : ∀ change, change? = some change →
    (journal.view start.stored transaction change.record).isSome = change.fields.isNone

section

variable {start : Database} {engine : Engine} {journal : Journal}

/-- A turn of an operation whose transaction is alone is a step under the lock that it needs. -/
private theorem Isolated.turn_alone (isolated : engine.Isolated start journal)
    (setUp : start.SetUp) {ticket : Nat} {task : Task}
    (found : engine.tasks[ticket]? = some task)
    (alone : engine.database.pool.locks.Alone task.transaction) :
    ∃ next progress, engine.turn ticket = engine.note ticket next progress ∧
      (engine.note ticket next progress).1.Isolated start (journal.noting task progress) ∧
      next.pool.locks.Alone task.transaction ∧ engine.database.Keeps next ∧
      Database.Isolated.Goes (engine.checked ticket task) start journal task (next, progress) := by
  have own : task.request.transaction = task.transaction := rfl
  obtain ⟨locks, acquires, _, remains⟩ := alone.acquire ticket own
  have checked : engine.checked ticket task = engine.database.setLocks locks := by
    unfold Engine.checked
    rw [acquires]
  have permits := (isolated.answers found).granted (by rw [acquires])
  have goes := (isolated.checked ticket task).goes setUp (isolated.proper ticket task found) permits
  have turns : engine.turn ticket =
      engine.note ticket (Progress.ofTask (engine.checked ticket task) task).1
        (Progress.ofTask (engine.checked ticket task) task).2 := by
    rw [checked]
    exact turn_of_granted found acquires
  have reached := isolated.turn setUp ticket
  rw [after_turn journal found turns, turns] at reached
  refine ⟨_, _, turns, reached, ?_, ?_, goes⟩
  · rw [goes.locks, checked]
    exact remains
  · exact (engine.database.keeps_setLocks _).trans goes.keeps

private theorem tasks_note_of_only {ticket : Nat}
    (only : ∀ other : Nat, other ≠ ticket → engine.tasks[other]? = none) (database : Database)
    (progress : Progress) (other : Nat) :
    (engine.note ticket database progress).1.tasks[other]? =
      if other = ticket then progress.task? else none := by
  rw [tasks_note]
  split
  · rfl
  · rename_i different
    exact only other different

private theorem idle_note_finished {ticket : Nat}
    (only : ∀ other : Nat, other ≠ ticket → engine.tasks[other]? = none) (database : Database)
    (outcome : Outcome) (other : Nat) :
    (engine.note ticket database (.finished outcome)).1.tasks[other]? = none :=
  (tasks_note_of_only only database _ other).trans (ite_self none)

private theorem Isolated.turns_alone (isolated : engine.Isolated start journal)
    (setUp : start.SetUp) {ticket bound : Nat} {task : Task}
    (found : engine.tasks[ticket]? = some task)
    (only : ∀ other : Nat, other ≠ ticket → engine.tasks[other]? = none)
    (alone : engine.database.pool.locks.Alone task.transaction) {next : Engine} {outcome : Outcome}
    (ends : engine.turns ticket bound = (next, some outcome)) :
    engine.Serves next start journal task.transaction (some task.request.page.table) outcome
      (task.change? outcome) := by
  induction bound generalizing engine task with
  | zero => cases ends
  | succ bound ih =>
      obtain ⟨database, progress, turns, reached, remains, keeps, goes⟩ :=
        isolated.turn_alone setUp found alone
      cases progress with
      | finished answer =>
          rw [turns_of_finished turns] at ends
          cases ends
          rw [journal.noting_finished] at reached
          refine ⟨⟨reached, idle_note_finished only database outcome, remains⟩, keeps,
            goes.changes outcome rfl, ?_, ?_⟩
          · intro change changed
            rw [goes.place outcome change rfl changed]
          · intro change changed
            exact goes.fits outcome change rfl changed
      | waiting rest =>
          -- What is left to do would change what the whole operation does.
          obtain ⟨_, transaction, table, change⟩ := goes.proper rest rfl
          rw [turns_of_underWay turns] at ends
          have onlyRest (other : Nat) (different : other ≠ ticket) :
              (engine.note ticket database (.waiting rest)).1.tasks[other]? = none :=
            (tasks_note_of_only only database _ other).trans (if_neg different)
          rw [← transaction] at remains
          obtain ⟨attends, keepsRest, changes, place, fits⟩ :=
            ih reached (tasks_note_waiting engine ticket database rest) onlyRest remains ends
          rw [transaction, change] at attends fits
          rw [change] at place changes
          rw [table] at place
          exact ⟨attends, keeps.trans keepsRest, changes, place, fits⟩

theorem Attends.submit {transaction : TransactionId}
    (attends : engine.Attends start journal transaction) (setUp : start.SetUp) {ticket : Nat}
    {operation : Operation} (transactional : operation.Transactional)
    (own : operation.transaction = transaction) {next : Engine} {outcome : Outcome}
    (submits : engine.submit ticket operation = (next, some outcome)) :
    engine.Serves next start journal transaction operation.table? outcome
      (operation.change? outcome) := by
  obtain ⟨isolated, idle, alone⟩ := attends
  obtain ⟨_, locks, keeps, proper, quiet⟩ := isolated.database.begins setUp transactional
  have begun := isolated.begin setUp (idle ticket) transactional
  unfold Engine.begin at begun
  cases begins : Progress.ofOperation engine.database operation with
  | mk database progress =>
      rw [begins] at locks keeps proper quiet begun
      dsimp only at locks keeps proper quiet begun
      have remains := alone
      rw [← locks] at remains
      have only (other : Nat) (_ : other ≠ ticket) := idle other
      cases progress with
      | finished answer =>
          rw [submit_of_finished begins] at submits
          cases submits
          rw [operation.change?_of_quiet (quiet outcome rfl)]
          refine ⟨⟨begun, idle_note_finished only database outcome, remains⟩, keeps,
            (quiet outcome rfl).symm, ?_, ?_⟩
          · intro change impossible
            cases impossible
          · intro change impossible
            cases impossible
      | waiting task =>
          obtain ⟨_, mine, table, change⟩ := proper task rfl
          rw [submit_of_waiting begins] at submits
          have onlyTask (other : Nat) (different : other ≠ ticket) :
              (engine.note ticket database (.waiting task)).1.tasks[other]? = none :=
            (tasks_note_of_only only database _ other).trans (if_neg different)
          rw [own] at mine
          rw [← mine] at remains
          obtain ⟨attends, keepsTask, changes, place, fits⟩ :=
            begun.turns_alone setUp (tasks_note_waiting engine ticket database task) onlyTask
              remains submits
          rw [mine, change] at attends fits
          rw [change] at place changes
          rw [← table] at place
          exact ⟨attends, keeps.trans keepsTask, changes, place, fits⟩

end

end Engine

end RowStore
