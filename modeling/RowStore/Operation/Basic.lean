import RowStore.Insertion
import RowStore.Scan

/-!
Operations that may have to wait for locks, and what comes of them. An operation under way is a
task: what is left to do once the lock that the task names is granted.
-/

set_option autoImplicit false

namespace RowStore

/-! ### What is asked, and what comes of it -/

inductive Operation where
  | lock (request : LockRequest)
  | fetch (transaction : TransactionId) (page : PageId) (access : Access)
  /-- Stores a row in a registered table. -/
  | insert (transaction : TransactionId) (table : TableId) (row : Row)
  /-- Stores a row in a table file, and leaves the changed page to the caller. -/
  | insertInto (transaction : TransactionId) (file : TableFile) (row : Row)
  /-- Stores copies of a row in a registered table, up to the first that fails. -/
  | fill (transaction : TransactionId) (table : TableId) (row : Row) (copies : Nat)
  /-- Deletes a row from the registered table that it is stored in. -/
  | delete (transaction : TransactionId) (row : Row)
  /-- Deletes a row from a table file, and leaves the changed page to the caller. -/
  | deleteFrom (transaction : TransactionId) (file : TableFile) (row : Row)
  /-- Takes up to so many rows from a scan. -/
  | scan (scan : Scan) (count : Nat)
  deriving DecidableEq, Repr

inductive Outcome where
  | failed (fault : Fault)
  | locked
  /-- The page, and the frame that it is in. -/
  | fetched (frame : Nat) (page : Page)
  /-- The row as stored, and the page that changed. -/
  | inserted (row : Row) (page : PageId)
  | filled (stored : Nat) (last : Option RecordId) (ending : Option Fault)
  /-- The page that changed. -/
  | deleted (page : PageId)
  /-- The scan as it is now, and the rows taken from it. -/
  | scanned (scan : Scan) (rows : List Row) (ending : Option ScanEnd)
  deriving DecidableEq, Repr

/-! ### Under way -/

/-- Whether a changed page is taken over by the pool at once. -/
inductive Handover where
  | toPool
  | toCaller
  deriving DecidableEq, Repr

inductive Task where
  | locking (request : LockRequest)
  | fetching (transaction : TransactionId) (page : PageId) (access : Access)
  | inserting (insertion : Insertion) (handover : Handover)
  /-- So many copies are left, the one under way included. -/
  | filling (insertion : Insertion) (table : TableId) (left stored : Nat) (last : Option RecordId)
  | deleting (transaction : TransactionId) (row : Row) (page : PageId) (handover : Handover)
  /-- So many rows are left to take, after those taken already. -/
  | scanning (scan : Scan) (left : Nat) (rows : List Row)
  deriving DecidableEq, Repr

inductive Progress where
  | finished (outcome : Outcome)
  | waiting (task : Task)
  deriving DecidableEq, Repr

namespace Task

def request : Task → LockRequest
  | .locking request => request
  | .fetching transaction page access => ⟨transaction, page, access.mode⟩
  | .inserting insertion _ => ⟨insertion.transaction, insertion.page, .exclusive⟩
  | .filling insertion _ _ _ _ => ⟨insertion.transaction, insertion.page, .exclusive⟩
  | .deleting transaction _ page _ => ⟨transaction, page, .exclusive⟩
  | .scanning scan _ _ => ⟨scan.transaction, scan.page, .shared⟩

/-- What comes of a task whose next step failed. What was done before stays. -/
def fail (fault : Fault) : Task → Outcome
  | .filling _ _ _ stored last => .filled stored last (some fault)
  | .scanning scan _ rows => .scanned scan rows (some (.failed fault))
  | _ => .failed fault

end Task

end RowStore
