import RowStore.Engine
import RowStore.Proofs.Database.Ending
import RowStore.Proofs.Lock.Run

/-!
Runs of an engine: operations begin, take their turns and end in any order, and transactions commit
and abort between them. A journal is kept of what the operations answered.
-/

set_option autoImplicit false

namespace RowStore

inductive EngineAction where
  | begin (ticket : Nat) (operation : Operation)
  | turn (ticket : Nat)
  | commit (transaction : TransactionId)
  | abort (transaction : TransactionId)
  deriving DecidableEq, Repr

/-- An operation on whole rows and pages, which leaves locks and writing back to the pool. A row to
be stored has the field types that its schema declares. -/
def Operation.Transactional : Operation → Prop
  | .fetch _ _ _ => True
  | .insert _ _ row => row.Typed
  | .delete _ _ => True
  | .scan _ _ => True
  | _ => False

instance (operation : Operation) : Decidable operation.Transactional := by
  cases operation <;> unfold Operation.Transactional <;> infer_instance

def Task.change? : Task → Outcome → Option Change
  | .inserting insertion _, .inserted row _ =>
      row.record.map (fun record => ⟨record, some insertion.row.fields⟩)
  | .deleting _ row _ _, .deleted _ => row.record.map (fun record => ⟨record, none⟩)
  | _, _ => none

def Task.transaction (task : Task) : TransactionId :=
  task.request.transaction

def Operation.change? : Operation → Outcome → Option Change
  | .insert _ _ row, .inserted stored _ =>
      stored.record.map (fun record => ⟨record, some row.fields⟩)
  | .delete _ row, .deleted _ => row.record.map (fun record => ⟨record, none⟩)
  | _, _ => none

def Outcome.isChange : Outcome → Bool
  | .inserted _ _ => true
  | .deleted _ => true
  | _ => false

def Operation.transaction : Operation → TransactionId
  | .lock request => request.transaction
  | .fetch transaction _ _ => transaction
  | .insert transaction _ _ => transaction
  | .insertInto transaction _ _ => transaction
  | .fill transaction _ _ _ => transaction
  | .delete transaction _ => transaction
  | .deleteFrom transaction _ _ => transaction
  | .scan reading _ => reading.transaction

/-- The table that an operation is about; a row that is not stored anywhere is in none. -/
def Operation.table? : Operation → Option TableId
  | .lock request => some request.page.table
  | .fetch _ page _ => some page.table
  | .insert _ table _ => some table
  | .insertInto _ file _ => some file.id
  | .fill _ table _ _ => some table
  | .delete _ row => row.record.map (fun record => record.page.table)
  | .deleteFrom _ file _ => some file.id
  | .scan reading _ => some reading.file.id

namespace Engine

def perform (engine : Engine) : EngineAction → Engine
  | .begin ticket operation => (engine.begin ticket operation).1
  | .turn ticket => (engine.turn ticket).1
  | .commit transaction => engine.setDatabase (engine.database.commit transaction).1
  | .abort transaction => engine.setDatabase (engine.database.abort transaction)

/-- Operations begin under unused tickets, and no transaction ends while a request of its own
sleeps. -/
def Transactional (engine : Engine) : EngineAction → Prop
  | .begin ticket operation => engine.tasks[ticket]? = none ∧ operation.Transactional
  | .turn _ => True
  | .commit transaction => engine.database.pool.locks.sleeps transaction = false
  | .abort transaction => engine.database.pool.locks.sleeps transaction = false

/-- Operations begin under unused tickets. Transactions may end at any time. -/
def Concurrent (engine : Engine) : EngineAction → Prop
  | .begin ticket operation => engine.tasks[ticket]? = none ∧ operation.Transactional
  | _ => True

instance (engine : Engine) (action : EngineAction) : Decidable (engine.Concurrent action) := by
  cases action <;> unfold Engine.Concurrent <;> infer_instance

theorem Transactional.concurrent {engine : Engine} {action : EngineAction}
    (transactional : engine.Transactional action) : engine.Concurrent action := by
  cases action with
  | begin ticket operation => exact transactional
  | _ => trivial

instance (engine : Engine) (action : EngineAction) : Decidable (engine.Transactional action) := by
  cases action <;> unfold Engine.Transactional <;> infer_instance

def TransactionalFrom (engine : Engine) : List EngineAction → Prop
  | [] => True
  | action :: rest => engine.Transactional action ∧ (engine.perform action).TransactionalFrom rest

def decideTransactionalFrom (engine : Engine) : (actions : List EngineAction) →
    Decidable (engine.TransactionalFrom actions)
  | [] => isTrue trivial
  | action :: rest =>
      have := (engine.perform action).decideTransactionalFrom rest
      inferInstanceAs (Decidable (_ ∧ _))

instance (engine : Engine) (actions : List EngineAction) :
    Decidable (engine.TransactionalFrom actions) :=
  engine.decideTransactionalFrom actions

end Engine

def Journal.after (journal : Journal) (engine : Engine) : EngineAction → Journal
  | .begin _ _ => journal
  | .turn ticket =>
      match engine.tasks[ticket]?, (engine.turn ticket).2 with
      | some task, .finished outcome =>
          match task.change? outcome with
          | some change => journal.note task.transaction change
          | none => journal
      | _, _ => journal
  | .commit transaction =>
      match (engine.database.commit transaction).2 with
      | .ok () => journal.commit transaction
      | .error _ => journal
  | .abort transaction => journal.abort transaction

def Engine.record (engine : Engine) (journal : Journal) :
    List EngineAction → Engine × Journal
  | [] => (engine, journal)
  | action :: rest => (engine.perform action).record (journal.after engine action) rest

end RowStore
