/-!
Page geometry: how many rows of one width share a page, and how many bytes the page spends on the
bits that say which of them are present.
-/

set_option autoImplicit false

namespace RowStore.Geometry

/-- A row costs its own bits and one bit of the header. -/
def slotCount (pageSize rowWidth : Nat) : Nat :=
  pageSize * 8 / (rowWidth * 8 + 1)

def headerLength (slots : Nat) : Nat :=
  (slots + 7) / 8

end RowStore.Geometry
