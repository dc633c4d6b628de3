import RowStore.Operation.Progress

/-!
Refusals: what an operation has done when the disk refuses one of its accesses. An operation fails
there; what it changed before stays changed. Nothing comes of a refusal if the operation does not
come to the access.
-/

set_option autoImplicit false

namespace RowStore

inductive Refusal where
  /-- A page is not read. -/
  | reading
  /-- The pages of a file are not counted. -/
  | counting
  /-- Only so many bytes of a page are added. -/
  | adding (written : Nat)
  deriving DecidableEq, Repr

namespace Insertion

/-- The database when an insertion cannot come to the page behind the first `tried` ones. -/
def advanceRefused? (database : Database) (insertion : Insertion) (tried : Nat) :
    Refusal → Option Database
  | .reading => none
  | .counting => some database
  | .adding written =>
      if tried < insertion.file.pageCount database.volume then none
      else some (database.appendInPart insertion.file written)

def skipRefused? (database : Database) (insertion : Insertion) (refusal : Refusal) :
    Option Database :=
  if insertion.nextPage + 1 < insertion.limit then none
  else advanceRefused? database insertion insertion.limit refusal

end Insertion

namespace Progress

section

variable (database : Database) (refusal : Refusal) (cause : DiskCause)

def insertRefused? (transaction : TransactionId) (file : TableFile) (row : Row) :
    Option (Database × Outcome) :=
  if row.schema = file.schema then
    (Insertion.advanceRefused? database ⟨transaction, file, row, 0, 0⟩ 0 refusal).map
      (fun reached => (reached, .failed (.disk cause)))
  else none

/-- A scan that has given out all its rows cannot tell whether its file has a page more. -/
def scanRefused? (scan : Scan) (left : Nat) (rows : List Row) : Option (Database × Outcome) :=
  let (rest, given) := scan.give left
  if given.length = left then none
  else
    match refusal with
    | .counting =>
        some (database, .scanned rest (rows ++ given) (some (.failed (.disk cause))))
    | _ => none

/-- What comes of an operation that is refused before it needs a lock. Copies that are stored in a
row are as many insertions, and are refused as such. -/
def ofOperationRefused? : Operation → Option (Database × Outcome)
  | .insert transaction table row =>
      match database.catalog.file table with
      | .ok file => insertRefused? database refusal cause transaction file row
      | .error _ => none
  | .insertInto transaction file row =>
      insertRefused? database refusal cause transaction file row
  | .scan scan count => scanRefused? database refusal cause scan count []
  | _ => none

def reads (page : PageId) : Bool :=
  (database.pool.residentFrame? page).isNone && (database.catalog.file page.table).isOk

/-- What comes of a task that loads a page, and is refused then or later on. -/
def loadRefused? (task : Task) (onwards : Database → Page → Option (Database × Outcome)) :
    Option (Database × Outcome) :=
  match refusal with
  | .reading =>
      if reads database task.request.page then some (database, task.fail (.disk cause)) else none
  | _ =>
      match database.load task.request.page with
      | .ok (loaded, _, page) => onwards loaded page
      | .error _ => none

/-- What comes of a task that is refused in the turn in which its lock is granted. -/
def ofTaskRefused? (task : Task) : Option (Database × Outcome) :=
  match task with
  | .locking _ => none
  | .filling _ _ _ _ _ => none
  | .fetching transaction page access =>
      loadRefused? (database.noteAccess transaction page access) refusal cause task
        (fun _ _ => none)
  | .deleting transaction _ page _ =>
      loadRefused? (database.noteAccess transaction page .write) refusal cause task
        (fun _ _ => none)
  | .inserting insertion _ =>
      loadRefused? (database.noteAccess insertion.transaction insertion.page .write) refusal cause
        task (fun loaded page =>
          if page.isFull then
            (insertion.skipRefused? loaded refusal).map
              (fun reached => (reached, .failed (.disk cause)))
          else none)
  | .scanning scan left rows =>
      loadRefused? database refusal cause task
        (fun loaded page => scanRefused? loaded refusal cause (scan.take page) left rows)

end

end Progress

end RowStore
