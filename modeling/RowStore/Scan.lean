import RowStore.TableFile

/-!
Scans: reading the rows of a table by ascending page and slot. A scan takes the rows of one page at
a time, and it copies them, so that it needs the page only while it takes them.
-/

set_option autoImplicit false

namespace RowStore

structure Scan where
  file : TableFile
  transaction : TransactionId
  /-- The number of the next page to take. -/
  nextPage : Nat
  /-- The rows of the page taken last that were not given out yet. -/
  current : List Row
  deriving DecidableEq, Repr

inductive ScanEnd where
  | atEnd
  | failed (fault : Fault)
  deriving DecidableEq, Repr

namespace Scan

def start (file : TableFile) (transaction : TransactionId) : Scan :=
  { file := file
    transaction := transaction
    nextPage := 0
    current := [] }

def rewind (scan : Scan) : Scan :=
  start scan.file scan.transaction

def page (scan : Scan) : PageId :=
  scan.file.pageId scan.nextPage

def isAtEnd (scan : Scan) (volume : Volume) : Bool :=
  scan.file.pageCount volume ≤ scan.nextPage

def take (scan : Scan) (page : Page) : Scan :=
  { scan with
    nextPage := scan.nextPage + 1
    current := page.rows }

def give (scan : Scan) (count : Nat) : Scan × List Row :=
  ({ scan with current := scan.current.drop count }, scan.current.take count)

end Scan

end RowStore
