import RowStore.Database.Basic
import RowStore.Lock.Release

/-!
Pages of a database: loading them into the pool, taking over changed ones, writing them back, and
ending a transaction. Everything here is done under locks that the caller holds already.
-/

set_option autoImplicit false

namespace RowStore.Database

/-! ### Loading and changing -/

def noteAccess (database : Database) (transaction : TransactionId) (page : PageId) :
    Access → Database
  | .read => database
  | .write => { database with pool := database.pool.noteWrite transaction page }

/-- The page's frame in the pool, with what it holds. A page that is not there is read from its
table's file. -/
def load (database : Database) (page : PageId) : Except Fault (Database × Nat × Page) :=
  match database.pool.residentFrame? page with
  | some (frame, content) => .ok (database, frame, content)
  | none => do
      let file ← database.catalog.file page.table
      let content ← file.readPage database.volume page
      let (pool, frame) ← database.pool.installNew content
      return ({ database with pool := pool }, frame, content)

def setFrame (database : Database) (frame : Nat) (page : Page) : Database :=
  { database with pool := database.pool.setFrame frame page }

def absorb (database : Database) (transaction : TransactionId) (frame : Nat) (page : Page) :
    Database × Except Fault Unit :=
  let noted := (database.setFrame frame (page.mark (some transaction))).noteAccess transaction
    page.id .write
  match noted.pool.install page.id frame with
  | .ok pool => ({ noted with pool := pool }, .ok ())
  | .error fault => (noted, .error fault)

/-! ### Writing back -/

/-- Writes a page to its table's file if it is in the pool with changes. It is clean afterwards. -/
def flushPage (database : Database) (page : PageId) : Except Fault Database :=
  match database.pool.residentFrame? page with
  | none => .ok database
  | some (frame, content) =>
      if content.isDirty then do
        let file ← database.catalog.file page.table
        let written ← database.writePage file content
        return written.setFrame frame (content.mark none)
      else .ok database

/-- Writes a page to its table's file as a frame has it, if the frame has changes. It is clean
afterwards, whether or not it is still the one in the pool. -/
def writeFrame (database : Database) (page : PageId) (frame : Nat) : Except Fault Database :=
  match database.pool.frames[frame]? with
  | none => .ok database
  | some content =>
      if content.isDirty then do
        let file ← database.catalog.file page.table
        let written ← database.writePage file content
        return written.setFrame frame (content.mark none)
      else .ok database

/-- The database when the disk gives up after so many bytes of a page, if there is anything to
write. The page keeps its changes. -/
def writeFrameInPart? (database : Database) (page : PageId) (frame written : Nat) :
    Option Database :=
  match database.pool.frames[frame]?, database.catalog.file page.table with
  | some content, .ok file =>
      if content.isDirty && (file.writePage database.volume content).isOk then
        some { database with volume := file.writeInPart database.volume content written }
      else none
  | _, _ => none

def flushEach (database : Database) : List PageId → Database × Except Fault Unit
  | [] => (database, .ok ())
  | page :: rest =>
      match database.flushPage page with
      | .ok flushed => flushed.flushEach rest
      | .error fault => (database, .error fault)

def flushTransaction (database : Database) (transaction : TransactionId) :
    Database × Except Fault Unit :=
  database.flushEach (database.pool.writtenBy transaction)

def flushAll (database : Database) : Database × Except Fault Unit :=
  match database.flushEach database.pool.resident.keys with
  | (flushed, .ok ()) => ({ flushed with pool := flushed.pool.discardAll }, .ok ())
  | (flushed, .error fault) => (flushed, .error fault)

def discard (database : Database) (page : PageId) : Database :=
  { database with pool := database.pool.discard page }

/-! ### Locks -/

def setLocks (database : Database) (locks : LockTable) : Database :=
  { database with pool := { database.pool with locks := locks } }

def release (database : Database) (transaction : TransactionId) (page : PageId) : Database :=
  database.setLocks (database.pool.locks.release transaction page)

def releaseAll (database : Database) (transaction : TransactionId) : Database :=
  database.setLocks (database.pool.locks.releaseAll transaction)

def interrupt (database : Database) (transaction : TransactionId) : Database :=
  database.setLocks (database.pool.locks.interrupt transaction)

/-! ### Ending a transaction -/

def dismiss (database : Database) (transaction : TransactionId) : Database :=
  let discarded := database.pool.discardEach (database.pool.writtenBy transaction)
  { database with pool := discarded.forgetWrites transaction }.releaseAll transaction

def abort (database : Database) (transaction : TransactionId) : Database :=
  database.dismiss transaction

/-- Writes what a transaction did, and ends it. If a page fails, the transaction goes on with all
its locks and pages. -/
def commit (database : Database) (transaction : TransactionId) : Database × Except Fault Unit :=
  match database.flushTransaction transaction with
  | (flushed, .ok ()) => (flushed.dismiss transaction, .ok ())
  | (flushed, .error fault) => (flushed, .error fault)

end RowStore.Database
