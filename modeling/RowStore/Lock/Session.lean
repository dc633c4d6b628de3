import RowStore.Identity
import Std.Data.ExtTreeSet

/-!
Sessions: what the lock table notes about a transaction from its first request until it releases
everything. A transaction that goes on afterwards is in a new session, and a request that was asleep
meanwhile stays in the session that made it.
-/

set_option autoImplicit false

namespace RowStore

/-- A session, by its transaction and by how many sessions of the transaction came before it. -/
structure SessionId where
  owner : TransactionId
  serial : Nat
  deriving DecidableEq, Repr

namespace SessionId

instance : Ord SessionId :=
  ⟨compareLex (compareOn SessionId.owner) (compareOn SessionId.serial)⟩

instance : Std.TransOrd SessionId :=
  inferInstanceAs (Std.TransCmp
    (compareLex (compareOn SessionId.owner) (compareOn SessionId.serial)))

instance : Std.LawfulEqOrd SessionId where
  eq_of_compare {left right} same := by
    obtain ⟨owners, serials⟩ := compareLex_eq_eq.mp same
    have sameOwner : left.owner = right.owner := Std.LawfulEqOrd.eq_of_compare owners
    have sameSerial : left.serial = right.serial := Std.LawfulEqOrd.eq_of_compare serials
    cases left
    cases right
    cases sameOwner
    cases sameSerial
    rfl

end SessionId

structure Session where
  /-- The pages that requests of the session were granted and that were not released since. -/
  held : Std.ExtTreeSet PageId
  /-- The page that a request of the session sleeps for. -/
  waitingOn : Option PageId
  /-- Whether the next request that would have to wait is to be refused. -/
  interrupted : Bool

namespace Session

def new : Session :=
  { held := ∅
    waitingOn := none
    interrupted := false }

def wait (session : Session) (page : PageId) : Session :=
  { session with waitingOn := some page }

def stopWaiting (session : Session) : Session :=
  { session with waitingOn := none }

def interrupt (session : Session) : Session :=
  { session with interrupted := true }

def consumeInterrupt (session : Session) : Session :=
  { session with
    waitingOn := none
    interrupted := false }

def hold (session : Session) (page : PageId) : Session :=
  { session with held := session.held.insert page }

def letGo (session : Session) (page : PageId) : Session :=
  { session with held := session.held.erase page }

end Session

end RowStore
