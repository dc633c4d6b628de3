import RowStore.Disk.PagedFile
import RowStore.Disk.Volume
import RowStore.Page.Image

/-!
Table files: a file of pages that holds the rows of one table. Reading and writing pages here takes
no locks and keeps nothing in memory.
-/

set_option autoImplicit false

namespace RowStore

structure TableFile where
  id : TableId
  path : String
  schema : Schema
  pageSize : Nat
  deriving DecidableEq, Repr

namespace TableFile

/-! ### Opening -/

/-- A table has columns, and a page of it has room for a row. -/
def checkGeometry (schema : Schema) (pageSize : Nat) : Except Fault Unit :=
  if schema.arity = 0 then .error (.config .noColumns)
  else if Geometry.slotCount pageSize schema.width = 0 then
    .error (.config (.rowTooWide pageSize schema.width))
  else .ok ()

/-- Opens the file at a path as a table file. The table is checked before the disk is touched, and
the path is resolved when the file is open already. -/
def openUnder (reception : Volume.Reception) (numbering : String → TableId) (volume : Volume)
    (path : String) (opening : Volume.Opening) (schema : Schema) (pageSize : Nat) :
    Volume × Except Fault TableFile :=
  match checkGeometry schema pageSize, reception with
  | .error fault, _ => (volume, .error fault)
  | .ok (), .refused cause => (volume, .error (.disk cause))
  | .ok (), .taken =>
      match volume.openFile path opening with
      | .error fault => (volume, .error fault)
      | .ok opened => (opened, .ok ⟨numbering path, path, schema, pageSize⟩)
  | .ok (), .unresolved cause =>
      match volume.openFile path opening with
      | .error fault => (volume, .error fault)
      | .ok opened => (opened, .error (.disk cause))

/-! ### Pages on disk -/

def pages (file : TableFile) (volume : Volume) : PagedFile :=
  ⟨file.pageSize, volume.bytes file.path⟩

def pageCount (file : TableFile) (volume : Volume) : Nat :=
  (file.pages volume).pageCount

def toldCount (file : TableFile) (volume : Volume) : Nat :=
  (file.pages volume).toldCount

def pageId (file : TableFile) (number : Nat) : PageId :=
  ⟨file.id, number⟩

def readPage (file : TableFile) (volume : Volume) (page : PageId) : Except Fault Page :=
  if page.table = file.id ∧ page.number < file.pageCount volume then do
    let image ← (file.pages volume).read page.number file.pageSize
    Page.decode page file.schema image
  else .error (.pageNotFound page)

def writePage (file : TableFile) (volume : Volume) (page : Page) : Except Fault Volume :=
  if page.id.table = file.id then do
    let written ← (file.pages volume).write page.id.number page.encode
    return volume.write file.path written.bytes
  else .error (.pageNotFound page.id)

def writeInPart (file : TableFile) (volume : Volume) (page : Page) (written : Nat) : Volume :=
  volume.write file.path ((file.pages volume).putInPart page.id.number page.encode written).bytes

def appendEmptyPage (file : TableFile) (volume : Volume) : Volume × Nat :=
  let number := file.pageCount volume
  let grown := (file.pages volume).put number (Page.emptyImage file.pageSize)
  (volume.write file.path grown.bytes, number)

/-- Adds only so many bytes of a page without rows, then the disk gives up. -/
def appendInPart (file : TableFile) (volume : Volume) (written : Nat) : Volume :=
  volume.write file.path ((file.pages volume).putInPart (file.pageCount volume)
    (Page.emptyImage file.pageSize) written).bytes

end TableFile

end RowStore
