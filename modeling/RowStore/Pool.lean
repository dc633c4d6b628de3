import RowStore.Fault
import RowStore.Lock.Table
import RowStore.Page.Basic

/-!
Pools: the pages kept in memory, at most as many as the capacity. A page in memory is a frame; what
one holder of a frame changes, every other holder of it sees. To make room, a pool drops a clean
page that no transaction has to itself, and it never drops a page with changes.
-/

set_option autoImplicit false

namespace RowStore

structure Pool where
  capacity : Nat
  /-- The frames that were ever handed out, dropped ones included. -/
  frames : Std.ExtTreeMap Nat Page
  /-- The number of the next frame. -/
  nextFrame : Nat
  /-- The frame of each page that is in the pool. -/
  resident : Std.ExtTreeMap PageId Nat
  /-- The pages that each running transaction asked for in order to write. -/
  written : Std.ExtTreeMap TransactionId (Std.ExtTreeSet PageId)
  locks : LockTable
  /-- The place of the page to drop among those that can be, by the number of pages dropped
  before. -/
  preference : Nat → Nat
  /-- How many pages were dropped to make room. -/
  evictions : Nat

namespace Pool

def new (capacity : Nat) (preference : Nat → Nat) : Pool :=
  { capacity := capacity
    frames := ∅
    nextFrame := 0
    resident := ∅
    written := ∅
    locks := LockTable.empty
    preference := preference
    evictions := 0 }

/-! ### Views -/

def residentCount (pool : Pool) : Nat :=
  pool.resident.size

def isCached (pool : Pool) (page : PageId) : Bool :=
  pool.resident.contains page

def residentFrame? (pool : Pool) (page : PageId) : Option (Nat × Page) := do
  let frame ← pool.resident[page]?
  let content ← pool.frames[frame]?
  return (frame, content)

/-- The pages that the transaction asked for in order to write, ascending. -/
def writtenBy (pool : Pool) (transaction : TransactionId) : List PageId :=
  (pool.written.getD transaction ∅).toList

/-! ### Frames -/

def setFrame (pool : Pool) (frame : Nat) (page : Page) : Pool :=
  { pool with frames := pool.frames.insert frame page }

def noteWrite (pool : Pool) (transaction : TransactionId) (page : PageId) : Pool :=
  { pool with
    written := pool.written.insert transaction
      ((pool.written.getD transaction ∅).insert page) }

def forgetWrites (pool : Pool) (transaction : TransactionId) : Pool :=
  { pool with written := pool.written.erase transaction }

def discard (pool : Pool) (page : PageId) : Pool :=
  { pool with resident := pool.resident.erase page }

def discardEach (pool : Pool) (pages : List PageId) : Pool :=
  pages.foldl discard pool

def discardAll (pool : Pool) : Pool :=
  { pool with resident := ∅ }

/-! ### Making room -/

def isEvictable (pool : Pool) (page : PageId) (frame : Nat) : Bool :=
  (pool.locks.exclusiveHolder? page).isNone &&
    pool.frames[frame]?.any (fun content => !content.isDirty)

def evictable (pool : Pool) : List PageId :=
  (pool.resident.toList.filter (fun entry => pool.isEvictable entry.1 entry.2)).map
    (fun entry => entry.1)

def victim? (pool : Pool) : Option PageId :=
  pool.evictable[pool.preference pool.evictions % pool.evictable.length]?

def makeRoom (pool : Pool) : Except Fault Pool :=
  if pool.residentCount < pool.capacity then .ok pool
  else
    match pool.victim? with
    | none => .error (.poolExhausted pool.capacity)
    | some page => .ok { pool.discard page with evictions := pool.evictions + 1 }

def install (pool : Pool) (page : PageId) (frame : Nat) : Except Fault Pool := do
  let roomy ← if pool.isCached page then pure pool else pool.makeRoom
  return { roomy with resident := roomy.resident.insert page frame }

/-- Puts a page that was just read into a new frame of its own. The answer has the frame. -/
def installNew (pool : Pool) (page : Page) : Except Fault (Pool × Nat) := do
  let installed ← pool.install page.id pool.nextFrame
  return ({ installed.setFrame pool.nextFrame page with nextFrame := pool.nextFrame + 1 },
    pool.nextFrame)

end Pool

end RowStore
