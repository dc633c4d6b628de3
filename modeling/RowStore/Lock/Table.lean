import RowStore.Lock.Holders
import RowStore.Lock.Session
import RowStore.WaitGraph.Updates

/-!
Lock tables: who holds which page, who sleeps for one, and who waits behind whom.
-/

set_option autoImplicit false

namespace RowStore

structure LockRequest where
  transaction : TransactionId
  page : PageId
  mode : LockMode
  deriving DecidableEq, Repr

structure Sleeper where
  request : LockRequest
  session : SessionId
  /-- Whether the page was released, or a sleeper of it interrupted, since the last check. -/
  woken : Bool
  deriving DecidableEq, Repr

structure LockTable where
  /-- The pages that somebody holds or sleeps for. -/
  pages : Std.ExtTreeMap PageId Holders
  sessions : Std.ExtTreeMap SessionId Session
  /-- How many sessions each transaction has ended. -/
  ended : Std.ExtTreeMap TransactionId Nat
  graph : WaitGraph
  /-- The sleeping requests, by the ticket under which each was made. -/
  sleepers : Std.ExtTreeMap Nat Sleeper

namespace LockTable

def empty : LockTable :=
  { pages := ∅
    sessions := ∅
    ended := ∅
    graph := WaitGraph.empty
    sleepers := ∅ }

/-! ### Views -/

def holders (table : LockTable) (page : PageId) : Holders :=
  table.pages.getD page Holders.nobody

def sessionId (table : LockTable) (transaction : TransactionId) : SessionId :=
  ⟨transaction, table.ended.getD transaction 0⟩

def session? (table : LockTable) (transaction : TransactionId) : Option Session :=
  table.sessions[table.sessionId transaction]?

def lockMode? (table : LockTable) (transaction : TransactionId) (page : PageId) :
    Option LockMode :=
  (table.holders page).modeOf? transaction

def exclusiveHolder? (table : LockTable) (page : PageId) : Option TransactionId :=
  (table.holders page).exclusive

def heldPages (table : LockTable) (transaction : TransactionId) : List PageId :=
  match table.session? transaction with
  | some session => session.held.toList
  | none => []

def holdsLock (table : LockTable) (transaction : TransactionId) (page : PageId) : Bool :=
  (table.session? transaction).any (fun session => session.held.contains page)

def isWaiting (table : LockTable) (transaction : TransactionId) : Bool :=
  (table.session? transaction).any (fun session => session.waitingOn.isSome)

def inWaitGraph (table : LockTable) (transaction : TransactionId) : Bool :=
  table.graph.contains transaction

def trackedPages (table : LockTable) : Nat :=
  table.pages.size

def wokenTickets (table : LockTable) : List Nat :=
  (table.sleepers.toList.filter (fun entry => entry.2.woken)).map (fun entry => entry.1)

def hasSleeper (table : LockTable) (page : PageId) : Bool :=
  table.sleepers.toList.any (fun entry => entry.2.request.page == page)

/-! ### Sessions and sleepers -/

def session (table : LockTable) (id : SessionId) : Session :=
  table.sessions.getD id Session.new

def setSession (table : LockTable) (id : SessionId) (session : Session) : LockTable :=
  { table with sessions := table.sessions.insert id session }

def wake (table : LockTable) (page : PageId) : LockTable :=
  { table with
    sleepers := table.sleepers.map (fun _ sleeper =>
      if sleeper.request.page = page then { sleeper with woken := true } else sleeper) }

end LockTable

end RowStore
