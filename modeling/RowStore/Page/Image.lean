import RowStore.Page.Basic
import RowStore.Page.Geometry

/-!
Page images: the stored form of a page. The header comes first, then the slots side by side, then
zeros up to the page size. An empty slot is stored as zeros and is not read.
-/

set_option autoImplicit false

namespace RowStore.Page

def emptyImage (size : Nat) : List UInt8 :=
  List.replicate size 0

def encodeSlot (rowWidth : Nat) : Option Row → List UInt8
  | some row => row.encode
  | none => List.replicate rowWidth 0

def encode (page : Page) : List UInt8 :=
  (page.header ++ page.slots.flatMap (encodeSlot page.schema.width) ++
    List.replicate page.size 0).take page.size

def decodeSlots (id : PageId) (schema : Schema) (header : List UInt8) :
    Nat → Nat → List UInt8 → Except Fault (List (Option Row))
  | _, 0, _ => .ok []
  | slot, count + 1, bytes => do
      let content ←
        if Bitmap.isSet header slot then do
          let row ← Row.decode schema (bytes.take schema.width)
          pure (some (row.storedAt ⟨id, slot⟩))
        else pure none
      let contents ← decodeSlots id schema header (slot + 1) count (bytes.drop schema.width)
      return content :: contents

/-- Reads a page from exactly its image. The page is clean, and its header is kept as read. -/
def decode (id : PageId) (schema : Schema) (image : List UInt8) : Except Fault Page :=
  let slots := Geometry.slotCount image.length schema.width
  let header := image.take (Geometry.headerLength slots)
  if slots = 0 then .error (.corrupt (.noSlots image.length schema.width))
  else do
    let contents ←
      decodeSlots id schema header 0 slots (image.drop (Geometry.headerLength slots))
    return ⟨id, schema, image.length, header, contents, none⟩

end RowStore.Page
