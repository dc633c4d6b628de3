import RowStore.Lock.Acquire
import RowStore.Operation.Progress

/-!
Engines: a database with the operations that are under way in it. Each operation has a ticket. A
turn of an operation is one check of the lock that it needs and, if that is granted, everything up
to the next lock; turns of different operations come in any order.
-/

set_option autoImplicit false

namespace RowStore

structure Engine where
  database : Database
  /-- The operations under way, by ticket. -/
  tasks : Std.ExtTreeMap Nat Task

inductive Turn where
  | asleep
  /-- The operation needs another lock. -/
  | underWay
  | finished (outcome : Outcome)
  deriving DecidableEq, Repr

namespace Engine

def new (database : Database) : Engine :=
  { database := database
    tasks := ∅ }

def setDatabase (engine : Engine) (database : Database) : Engine :=
  { engine with database := database }

def note (engine : Engine) (ticket : Nat) (database : Database) : Progress → Engine × Turn
  | .finished outcome =>
      ({ database := database
         tasks := engine.tasks.erase ticket }, .finished outcome)
  | .waiting task =>
      ({ database := database
         tasks := engine.tasks.insert ticket task }, .underWay)

/-! ### Turns -/

/-- Begins an operation. No lock is asked for yet. -/
def begin (engine : Engine) (ticket : Nat) (operation : Operation) : Engine × Turn :=
  let (database, progress) := Progress.ofOperation engine.database operation
  engine.note ticket database progress

def turn (engine : Engine) (ticket : Nat) : Engine × Turn :=
  match engine.tasks[ticket]? with
  | none => (engine, .asleep)
  | some task =>
      let (locks, verdict) := engine.database.pool.locks.acquire ticket task.request
      let checked := engine.database.setLocks locks
      match verdict with
      | .asleep => (engine.setDatabase checked, .asleep)
      | .refused fault => engine.note ticket checked (.finished (task.fail fault))
      | .granted =>
          let (database, progress) := Progress.ofTask checked task
          engine.note ticket database progress

/-! ### Running until asleep or finished -/

def turns (engine : Engine) (ticket : Nat) : Nat → Engine × Option Outcome
  | 0 => (engine, none)
  | bound + 1 =>
      match engine.turn ticket with
      | (next, .finished outcome) => (next, some outcome)
      | (next, .asleep) => (next, none)
      | (next, .underWay) => next.turns ticket bound

def copiesLeft : Task → Nat
  | .filling _ _ left _ _ => left
  | _ => 0

/-- More turns than the operation under a ticket can take: each copy tries no page twice, and there
are no more pages to try than bytes on the volume, frames in the pool and copies together. -/
def turnBound (engine : Engine) (ticket : Nat) : Nat :=
  let copies := (engine.tasks[ticket]?.map copiesLeft).getD 0
  let stored := engine.database.volume.files.toList.foldl
    (fun total entry => total + entry.2.length) 0
  (copies + 1) * (stored + engine.database.pool.nextFrame + copies + 2)

def run (engine : Engine) (ticket : Nat) : Engine × Option Outcome :=
  engine.turns ticket (engine.turnBound ticket)

def submit (engine : Engine) (ticket : Nat) (operation : Operation) : Engine × Option Outcome :=
  match engine.begin ticket operation with
  | (begun, .finished outcome) => (begun, some outcome)
  | (begun, _) => begun.run ticket

def runEach (engine : Engine) : List Nat → Engine × List (Nat × Outcome)
  | [] => (engine, [])
  | ticket :: rest =>
      let (next, outcome) := engine.run ticket
      let (settled, outcomes) := next.runEach rest
      (settled, outcome.toList.map (fun result => (ticket, result)) ++ outcomes)

/-- Goes on with every operation whose sleep was disturbed, by ascending ticket. The answer has
those that finished. -/
def settle (engine : Engine) : Engine × List (Nat × Outcome) :=
  engine.runEach engine.database.pool.locks.wokenTickets

end Engine

end RowStore
