import RowStore.Identity
import Std.Data.ExtTreeSet

/-!
Holders of one page: the transactions that share it, or the one that has it to itself.
-/

set_option autoImplicit false

namespace RowStore

structure Holders where
  shared : Std.ExtTreeSet TransactionId
  exclusive : Option TransactionId

namespace Holders

def nobody : Holders :=
  { shared := ∅
    exclusive := none }

def modeOf? (holders : Holders) (transaction : TransactionId) : Option LockMode :=
  if holders.exclusive = some transaction then some .exclusive
  else if holders.shared.contains transaction then some .shared
  else none

def entries (holders : Holders) : List (TransactionId × LockMode) :=
  holders.shared.toList.map (fun holder => (holder, .shared)) ++
    holders.exclusive.toList.map (fun holder => (holder, .exclusive))

/-- The other transactions whose hold is incompatible with the mode asked for. Only others stand in
the way, so that a transaction that alone shares a page can have it to itself. -/
def opposing (holders : Holders) (transaction : TransactionId) (mode : LockMode) :
    List TransactionId :=
  (holders.entries.filter
    (fun entry => entry.1 != transaction && !mode.compatible entry.2)).map (fun entry => entry.1)

/-- Gives the page to a transaction. Having it already to itself includes sharing it. -/
def grant (holders : Holders) (transaction : TransactionId) : LockMode → Holders
  | .shared =>
      if holders.exclusive = some transaction then holders
      else { holders with shared := holders.shared.insert transaction }
  | .exclusive =>
      { shared := ∅
        exclusive := some transaction }

def release (holders : Holders) (transaction : TransactionId) : Holders :=
  { shared := holders.shared.erase transaction
    exclusive := if holders.exclusive = some transaction then none else holders.exclusive }

def isFree (holders : Holders) : Bool :=
  holders.exclusive.isNone && holders.shared.isEmpty

end Holders

end RowStore
