import RowStore.Database.Pages

/-!
Chores: calls that write pages back, empty the pool or end a transaction, in the steps between which
others go on. A page is found in the pool in one step and written in another one, as its frame has
it by then; the pages to be written are noted at the beginning, and what is done once they are
written comes in steps of its own.
-/

set_option autoImplicit false

namespace RowStore

inductive Chore where
  | flushPage (page : PageId)
  /-- The changed pages of a transaction are written back. -/
  | flushTransaction (transaction : TransactionId)
  /-- All pages are written back in this order, and the pool is emptied. -/
  | flushAll (order : List PageId)
  | commit (transaction : TransactionId)
  | abort (transaction : TransactionId)
  deriving DecidableEq, Repr

inductive Purpose where
  | write
  | clear
  /-- The transaction ends, and these pages are dropped. -/
  | complete (transaction : TransactionId) (pages : List PageId)
  deriving DecidableEq, Repr

inductive Stage where
  /-- These pages are still to be found. -/
  | visiting (pages : List PageId) (purpose : Purpose)
  /-- The page was found in this frame. -/
  | writing (page : PageId) (frame : Nat) (rest : List PageId) (purpose : Purpose)
  | forgetting (transaction : TransactionId)
  | releasing (transaction : TransactionId)
  deriving DecidableEq, Repr

inductive Headway where
  | onwards (stage : Stage)
  | finished (result : Except Fault Unit)

namespace Chore

/-- The pages that a transaction means to write are noted when it is to end. -/
def stage (database : Database) : Chore → Stage
  | .flushPage page => .visiting [page] .write
  | .flushTransaction transaction => .visiting (database.pool.writtenBy transaction) .write
  | .flushAll order => .visiting order .clear
  | .commit transaction =>
      .visiting (database.pool.writtenBy transaction)
        (.complete transaction (database.pool.writtenBy transaction))
  | .abort transaction =>
      .visiting [] (.complete transaction (database.pool.writtenBy transaction))

def whole (database : Database) : Chore → Database × Except Fault Unit
  | .flushPage page => database.flushEach [page]
  | .flushTransaction transaction => database.flushTransaction transaction
  | .flushAll order =>
      match database.flushEach order with
      | (flushed, .ok ()) => ({ flushed with pool := flushed.pool.discardAll }, .ok ())
      | (flushed, .error fault) => (flushed, .error fault)
  | .commit transaction => database.commit transaction
  | .abort transaction => (database.abort transaction, .ok ())

end Chore

namespace Stage

def conclude (database : Database) : Purpose → Database × Headway
  | .write => (database, .finished (.ok ()))
  | .clear => ({ database with pool := database.pool.discardAll }, .finished (.ok ()))
  | .complete transaction pages =>
      ({ database with pool := database.pool.discardEach pages },
        .onwards (.forgetting transaction))

def advance (database : Database) : Stage → Database × Headway
  | .visiting [] purpose => conclude database purpose
  | .visiting (page :: rest) purpose =>
      match database.pool.resident[page]? with
      | some frame => (database, .onwards (.writing page frame rest purpose))
      | none => (database, .onwards (.visiting rest purpose))
  | .writing page frame rest purpose =>
      match database.writeFrame page frame with
      | .ok written => (written, .onwards (.visiting rest purpose))
      | .error fault => (database, .finished (.error fault))
  | .forgetting transaction =>
      ({ database with pool := database.pool.forgetWrites transaction },
        .onwards (.releasing transaction))
  | .releasing transaction => (database.releaseAll transaction, .finished (.ok ()))

end Stage

end RowStore
