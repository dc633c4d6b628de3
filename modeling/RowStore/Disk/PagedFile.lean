import RowStore.Fault

/-!
Paged files: the bytes of one file as a row of pages of one size, numbered from zero. A tail that is
shorter than a page is not a page.
-/

set_option autoImplicit false

namespace RowStore

structure PagedFile where
  pageSize : Nat
  bytes : List UInt8
  deriving DecidableEq, Repr

namespace PagedFile

/-- The bytes with `data` in place of what was at `offset`. A gap before it is filled with zeros. -/
def splice (bytes : List UInt8) (offset : Nat) (data : List UInt8) : List UInt8 :=
  bytes.take offset ++ List.replicate (offset - bytes.length) 0 ++ data ++
    bytes.drop (offset + data.length)

def pageCount (file : PagedFile) : Nat :=
  file.bytes.length / file.pageSize

/-- The page count as it is told, in 32 bits. -/
def toldCount (file : PagedFile) : Nat :=
  file.pageCount % UInt32.size

/-- Only buffers of the page size are read into or written from. -/
def checkLength (file : PagedFile) (length : Nat) : Except Fault Unit :=
  if length = file.pageSize then .ok ()
  else .error (.corrupt (.bufferSize file.pageSize length))

def read (file : PagedFile) (number length : Nat) : Except Fault (List UInt8) := do
  file.checkLength length
  let offset := number * file.pageSize
  if file.bytes.length < offset + file.pageSize then throw (.disk (.beyondEnd number))
  else return (file.bytes.drop offset).take file.pageSize

/-- Puts data where a page begins, whether or not the file reaches it yet. -/
def put (file : PagedFile) (number : Nat) (data : List UInt8) : PagedFile :=
  { file with bytes := splice file.bytes (number * file.pageSize) data }

def putInPart (file : PagedFile) (number : Nat) (data : List UInt8) (written : Nat) : PagedFile :=
  if written = 0 then file else file.put number (data.take written)

def write (file : PagedFile) (number : Nat) (data : List UInt8) : Except Fault PagedFile := do
  file.checkLength data.length
  return file.put number data

/-- Writes the page after the last one, over a tail that is no page. The answer has its number. -/
def append (file : PagedFile) (data : List UInt8) : Except Fault (PagedFile × Nat) := do
  let extended ← file.write file.pageCount data
  return (extended, file.pageCount)

end PagedFile

end RowStore
