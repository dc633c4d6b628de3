import RowStore.Database.Pages

/-!
Insertions: storing a row in the first page of a table that has room. The pages are tried one after
another, each under an exclusive lock; when none has room, a page is added and tried too.
-/

set_option autoImplicit false

namespace RowStore

structure Insertion where
  transaction : TransactionId
  file : TableFile
  row : Row
  /-- The number of the page to try next. -/
  nextPage : Nat
  /-- The number of pages when they were last counted. -/
  limit : Nat
  deriving DecidableEq, Repr

inductive Trial where
  | stored (row : Row) (frame : Nat) (page : Page)
  | noRoom (insertion : Insertion)
  | failed (fault : Fault)
  deriving DecidableEq, Repr

namespace Insertion

def page (insertion : Insertion) : PageId :=
  insertion.file.pageId insertion.nextPage

/-- Comes to the page behind the first `tried` ones. If the file has none there, one is added at its
end. -/
def advance (database : Database) (insertion : Insertion) (tried : Nat) : Database × Insertion :=
  let count := insertion.file.pageCount database.volume
  if tried < count then
    (database, { insertion with
      nextPage := tried
      limit := count })
  else
    let (grown, added) := database.appendEmptyPage insertion.file
    (grown, { insertion with
      nextPage := added
      limit := added + 1 })

/-- Begins to store a row, which must have the schema of the table. -/
def start (database : Database) (transaction : TransactionId) (file : TableFile) (row : Row) :
    Except Fault (Database × Insertion) :=
  if row.schema = file.schema then
    .ok (advance database ⟨transaction, file, row, 0, 0⟩ 0)
  else .error (.schema (.tableSchema file.id))

/-- Goes on behind a page without room. The pages are counted again behind the last. -/
def skip (database : Database) (insertion : Insertion) : Database × Insertion :=
  if insertion.nextPage + 1 < insertion.limit then
    (database, { insertion with nextPage := insertion.nextPage + 1 })
  else advance database insertion insertion.limit

/-- Tries the next page, on which the transaction has an exclusive lock. -/
def tryPage (database : Database) (insertion : Insertion) : Database × Trial :=
  let noted := database.noteAccess insertion.transaction insertion.page .write
  match noted.load insertion.page with
  | .error fault => (noted, .failed fault)
  | .ok (loaded, frame, page) =>
      if page.isFull then
        let (skipped, rest) := skip loaded insertion
        (skipped, .noRoom rest)
      else
        match page.insert insertion.row with
        | .error fault => (loaded, .failed fault)
        | .ok (changed, stored) =>
            let owned := changed.mark (some insertion.transaction)
            (loaded.setFrame frame owned, .stored stored frame owned)

end Insertion

end RowStore
