import RowStore.Chore
import RowStore.Engine
import RowStore.Operation.Refusal

/-!
Services: an engine with the chores that are under way beside its operations. Each chore has a
ticket of its own. Steps of chores and turns of operations come in any order. The disk may refuse
what they ask of it; a refusal of something that is not asked is none.
-/

set_option autoImplicit false

namespace RowStore

namespace Engine

/-- Begins an operation of which the disk refuses an access. The answer has its outcome. -/
def beginRefused? (engine : Engine) (ticket : Nat) (operation : Operation) (refusal : Refusal)
    (cause : DiskCause) : Option (Engine × Outcome) :=
  (Progress.ofOperationRefused? engine.database refusal cause operation).map
    (fun came => ((engine.note ticket came.1 (.finished came.2)).1, came.2))

/-- A turn of an operation of which the disk refuses an access. The answer has its outcome. -/
def turnRefused? (engine : Engine) (ticket : Nat) (refusal : Refusal) (cause : DiskCause) :
    Option (Engine × Outcome) :=
  match engine.tasks[ticket]? with
  | none => none
  | some task =>
      let (locks, verdict) := engine.database.pool.locks.acquire ticket task.request
      if verdict = .granted then
        (Progress.ofTaskRefused? (engine.database.setLocks locks) refusal cause task).map
          (fun came => ((engine.note ticket came.1 (.finished came.2)).1, came.2))
      else none

end Engine

structure Service where
  engine : Engine
  /-- The chores under way, by ticket. -/
  chores : Std.ExtTreeMap Nat Stage

namespace Service

def new (database : Database) : Service :=
  { engine := Engine.new database
    chores := ∅ }

def setEngine (service : Service) (engine : Engine) : Service :=
  { service with engine := engine }

def database (service : Service) : Database :=
  service.engine.database

def call (service : Service) (ticket : Nat) (chore : Chore) : Service :=
  { service with chores := service.chores.insert ticket (chore.stage service.database) }

def note (service : Service) (ticket : Nat) (database : Database) :
    Headway → Service × Option (Except Fault Unit)
  | .onwards stage =>
      ({ engine := service.engine.setDatabase database
         chores := service.chores.insert ticket stage }, none)
  | .finished result =>
      ({ engine := service.engine.setDatabase database
         chores := service.chores.erase ticket }, some result)

def step (service : Service) (ticket : Nat) : Service × Option (Except Fault Unit) :=
  match service.chores[ticket]? with
  | none => (service, none)
  | some stage =>
      let (database, headway) := stage.advance service.database
      service.note ticket database headway

/-- One step of the chore under a ticket, in which the disk gives up after so many bytes of the page
to be written. The chore fails. -/
def stepRefused? (service : Service) (ticket written : Nat) : Option Service := do
  let stage ← service.chores[ticket]?
  match stage with
  | .writing page frame _ _ =>
      let reached ← service.database.writeFrameInPart? page frame written
      return { engine := service.engine.setDatabase reached
               chores := service.chores.erase ticket }
  | _ => none

end Service

end RowStore
