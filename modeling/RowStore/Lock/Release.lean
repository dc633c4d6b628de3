import RowStore.Lock.Table

/-!
Releasing locks and interrupting. Both wake sleepers, and neither grants anything.
-/

set_option autoImplicit false

namespace RowStore.LockTable

/-! ### Releasing -/

/-- Takes a page from a transaction, whatever its hold, and wakes the sleepers of the page. A page
that nobody holds or sleeps for is no longer looked after. Sleepers are all that can have a use for
the page's lock here, since a release is one step: between the steps of another request or release
there may be somebody who has looked the lock up and does not sleep. -/
def release (table : LockTable) (transaction : TransactionId) (page : PageId) : LockTable :=
  match table.pages[page]? with
  | none => table
  | some holders =>
      let remaining := holders.release transaction
      let released :=
        { table with
          pages :=
            if remaining.isFree && !table.hasSleeper page then table.pages.erase page
            else table.pages.insert page remaining
          sessions := table.sessions.modify (table.sessionId transaction)
            (fun session => session.letGo page)
          graph := table.graph.release transaction page }
      released.wake page

/-- Releases every page that the transaction's session holds, and ends the session. What the session
noted stays, for the requests of it that still sleep. -/
def releaseAll (table : LockTable) (transaction : TransactionId) : LockTable :=
  let released := (table.heldPages transaction).foldl
    (fun current page => current.release transaction page) table
  { released with
    ended := released.ended.insert transaction (released.ended.getD transaction 0 + 1)
    graph := released.graph.remove transaction }

/-! ### Interrupting -/

/-- Has the transaction's request refused that sleeps now, or else the next that would have to. -/
def interrupt (table : LockTable) (transaction : TransactionId) : LockTable :=
  let id := table.sessionId transaction
  let session := table.session id
  let marked := table.setSession id session.interrupt
  match session.waitingOn with
  | some page => marked.wake page
  | none => marked

end RowStore.LockTable
