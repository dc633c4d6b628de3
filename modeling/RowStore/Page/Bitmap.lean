/-!
Bitmaps over bytes. Bit `slot` lives in byte `slot / 8`, where the lowest bit comes first.
-/

set_option autoImplicit false

namespace RowStore.Bitmap

def mask (slot : Nat) : UInt8 :=
  ⟨BitVec.twoPow 8 (slot % 8)⟩

/-- Bits beyond the bytes are clear. -/
def isSet (header : List UInt8) (slot : Nat) : Bool :=
  match header[slot / 8]? with
  | some byte => byte.toBitVec.getLsbD (slot % 8)
  | none => false

def assign (header : List UInt8) (slot : Nat) (used : Bool) : List UInt8 :=
  header.modify (slot / 8) (fun byte => if used then byte ||| mask slot else byte &&& ~~~mask slot)

end RowStore.Bitmap
