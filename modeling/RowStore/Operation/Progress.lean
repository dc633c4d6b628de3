import RowStore.Operation.Basic

/-!
How operations go on: what each does before it needs a lock, and what it does with a lock that was
granted, up to the next one. What an operation changes before it fails stays changed.
-/

set_option autoImplicit false

namespace RowStore.Progress

/-! ### Before the first lock -/

def insertFile (database : Database) (transaction : TransactionId) (file : TableFile) (row : Row)
    (handover : Handover) : Database × Progress :=
  match Insertion.start database transaction file row with
  | .ok (started, insertion) => (started, .waiting (.inserting insertion handover))
  | .error fault => (database, .finished (.failed fault))

def insertTable (database : Database) (transaction : TransactionId) (table : TableId)
    (row : Row) : Database × Progress :=
  match database.catalog.file table with
  | .ok file => insertFile database transaction file row .toPool
  | .error fault => (database, .finished (.failed fault))

def fillNext (database : Database) (transaction : TransactionId) (table : TableId) (row : Row)
    (left stored : Nat) (last : Option RecordId) : Database × Progress :=
  if left = 0 then (database, .finished (.filled stored last none))
  else
    match database.catalog.file table with
    | .error fault => (database, .finished (.filled stored last (some fault)))
    | .ok file =>
        match Insertion.start database transaction file row with
        | .error fault => (database, .finished (.filled stored last (some fault)))
        | .ok (started, insertion) =>
            (started, .waiting (.filling insertion table left stored last))

def deleteFile (database : Database) (transaction : TransactionId) (file : TableFile) (row : Row)
    (handover : Handover) : Database × Progress :=
  match row.record with
  | none => (database, .finished (.failed .missingRecord))
  | some record =>
      if record.page.table = file.id then
        (database, .waiting (.deleting transaction row record.page handover))
      else (database, .finished (.failed (.foreignRow record file.id)))

def deleteTable (database : Database) (transaction : TransactionId) (row : Row) :
    Database × Progress :=
  match row.record with
  | none => (database, .finished (.failed .missingRecord))
  | some record =>
      match database.catalog.file record.page.table with
      | .error fault => (database, .finished (.failed fault))
      | .ok file => deleteFile database transaction file row .toPool

/-- Gives out rows that the scan has already. The scan needs a lock only for a page that it comes
to. -/
def scanNext (database : Database) (scan : Scan) (left : Nat) (rows : List Row) :
    Database × Progress :=
  let (rest, given) := scan.give left
  if given.length = left then (database, .finished (.scanned rest (rows ++ given) none))
  else if rest.isAtEnd database.volume then
    (database, .finished (.scanned rest (rows ++ given) (some .atEnd)))
  else (database, .waiting (.scanning rest (left - given.length) (rows ++ given)))

def ofOperation (database : Database) : Operation → Database × Progress
  | .lock request => (database, .waiting (.locking request))
  | .fetch transaction page access => (database, .waiting (.fetching transaction page access))
  | .insert transaction table row => insertTable database transaction table row
  | .insertInto transaction file row => insertFile database transaction file row .toCaller
  | .fill transaction table row copies =>
      fillNext database transaction table row copies 0 none
  | .delete transaction row => deleteTable database transaction row
  | .deleteFrom transaction file row => deleteFile database transaction file row .toCaller
  | .scan scan count => scanNext database scan count []

/-! ### Under a lock -/

def handOver (database : Database) (transaction : TransactionId) (frame : Nat) (page : Page) :
    Handover → Database × Except Fault Unit
  | .toPool => database.absorb transaction frame page
  | .toCaller => (database, .ok ())

def fetch (database : Database) (transaction : TransactionId) (page : PageId) (access : Access) :
    Database × Progress :=
  let noted := database.noteAccess transaction page access
  match noted.load page with
  | .ok (loaded, frame, content) => (loaded, .finished (.fetched frame content))
  | .error fault => (noted, .finished (.failed fault))

def insert (database : Database) (insertion : Insertion) (handover : Handover) :
    Database × Progress :=
  match insertion.tryPage database with
  | (tried, .failed fault) => (tried, .finished (.failed fault))
  | (tried, .noRoom rest) => (tried, .waiting (.inserting rest handover))
  | (tried, .stored row frame page) =>
      match handOver tried insertion.transaction frame page handover with
      | (handed, .ok ()) => (handed, .finished (.inserted row page.id))
      | (handed, .error fault) => (handed, .finished (.failed fault))

def fill (database : Database) (insertion : Insertion) (table : TableId) (left stored : Nat)
    (last : Option RecordId) : Database × Progress :=
  match insertion.tryPage database with
  | (tried, .failed fault) => (tried, .finished (.filled stored last (some fault)))
  | (tried, .noRoom rest) => (tried, .waiting (.filling rest table left stored last))
  | (tried, .stored row frame page) =>
      match tried.absorb insertion.transaction frame page with
      | (handed, .error fault) => (handed, .finished (.filled stored last (some fault)))
      | (handed, .ok ()) =>
          fillNext handed insertion.transaction table insertion.row (left - 1) (stored + 1)
            row.record

def delete (database : Database) (transaction : TransactionId) (row : Row) (page : PageId)
    (handover : Handover) : Database × Progress :=
  let noted := database.noteAccess transaction page .write
  match noted.load page with
  | .error fault => (noted, .finished (.failed fault))
  | .ok (loaded, frame, content) =>
      match content.delete row with
      | .error fault => (loaded, .finished (.failed fault))
      | .ok changed =>
          let owned := changed.mark (some transaction)
          match handOver (loaded.setFrame frame owned) transaction frame owned handover with
          | (handed, .ok ()) => (handed, .finished (.deleted owned.id))
          | (handed, .error fault) => (handed, .finished (.failed fault))

/-- Takes the page that the scan has come to. A page that cannot be had is taken up again by the
next call. -/
def scan (database : Database) (scan : Scan) (left : Nat) (rows : List Row) :
    Database × Progress :=
  match database.load scan.page with
  | .error fault => (database, .finished (.scanned scan rows (some (.failed fault))))
  | .ok (loaded, _, page) => scanNext loaded (scan.take page) left rows

def ofTask (database : Database) : Task → Database × Progress
  | .locking _ => (database, .finished .locked)
  | .fetching transaction page access => fetch database transaction page access
  | .inserting insertion handover => insert database insertion handover
  | .filling insertion table left stored last => fill database insertion table left stored last
  | .deleting transaction row page handover => delete database transaction row page handover
  | .scanning scan left rows => Progress.scan database scan left rows

end RowStore.Progress
