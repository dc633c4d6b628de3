import RowStore.Fault
import RowStore.Lock.Table

/-!
Acquiring locks. A request that others stand in the way of sleeps, unless sleeping would close a
cycle of waiting transactions or its session was interrupted. A sleeper that was woken is checked
anew, in no fixed order among the woken.
-/

set_option autoImplicit false

namespace RowStore

inductive Verdict where
  | granted
  | asleep
  | refused (fault : Fault)
  deriving DecidableEq, Repr

namespace LockTable

/-! ### Checking a request -/

def grant (table : LockTable) (request : LockRequest) (session : SessionId) : LockTable :=
  { table with
    pages := table.pages.insert request.page
      ((table.holders request.page).grant request.transaction request.mode)
    sessions := table.sessions.insert session ((table.session session).hold request.page)
    graph := table.graph.resolve request.transaction request.page }

/-- Checks a request that others stand in the way of. A cycle of waits is found before an interrupt
is noticed, and does not use the interrupt up. -/
def checkOpposed (table : LockTable) (ticket : Nat) (request : LockRequest) (session : SessionId)
    (opposing : List TransactionId) : LockTable × Verdict :=
  let (graph, extended) := table.graph.addWaits request.transaction request.page opposing
  let resolved := graph.resolve request.transaction request.page
  let current := table.session session
  if !extended then
    ({ table with graph := resolved }, .refused (.deadlock request.transaction request.page))
  else if current.interrupted then
    ({ table with
        graph := resolved
        sessions := table.sessions.insert session current.consumeInterrupt },
      .refused (.interrupted request.transaction))
  else
    ({ table with
        graph := graph
        sessions := table.sessions.insert session (current.wait request.page)
        sleepers := table.sleepers.insert ticket ⟨request, session, false⟩ },
      .asleep)

def check (table : LockTable) (ticket : Nat) (request : LockRequest) (session : SessionId) :
    LockTable × Verdict :=
  match (table.holders request.page).opposing request.transaction request.mode with
  | [] => (table.grant request session, .granted)
  | holder :: others => table.checkOpposed ticket request session (holder :: others)

/-- Begins to look after the page and the session of a request. -/
def enroll (table : LockTable) (request : LockRequest) : LockTable :=
  { table with
    pages := table.pages.insertIfNew request.page Holders.nobody
    sessions := table.sessions.insertIfNew (table.sessionId request.transaction) Session.new }

def rouse (table : LockTable) (ticket : Nat) (sleeper : Sleeper) : LockTable :=
  { table with
    sessions := table.sessions.insert sleeper.session
      (table.session sleeper.session).stopWaiting
    sleepers := table.sleepers.erase ticket }

/-- Makes a request under a ticket, or checks anew the request that sleeps under it. A sleeper that
nothing woke sleeps on. -/
def acquire (table : LockTable) (ticket : Nat) (request : LockRequest) : LockTable × Verdict :=
  match table.sleepers[ticket]? with
  | none =>
      (table.enroll request).check ticket request (table.sessionId request.transaction)
  | some sleeper =>
      if sleeper.woken then
        (table.rouse ticket sleeper).check ticket sleeper.request sleeper.session
      else (table, .asleep)

end LockTable

end RowStore
