/-!
Big-endian words: a 32-bit number as four bytes, the most significant first.
-/

set_option autoImplicit false

namespace RowStore.BigEndian

def encode (word : UInt32) : List UInt8 :=
  [UInt8.ofNat (word.toNat / 0x1000000), UInt8.ofNat (word.toNat / 0x10000),
    UInt8.ofNat (word.toNat / 0x100), UInt8.ofNat word.toNat]

def value (bytes : List UInt8) : Nat :=
  bytes.foldl (fun number byte => number * 256 + byte.toNat) 0

/-- The word at the front of the bytes; missing bytes count as zero. -/
def decode (bytes : List UInt8) : UInt32 :=
  UInt32.ofNat (value ((bytes ++ List.replicate 4 0).take 4))

theorem length_encode (word : UInt32) : (encode word).length = 4 := rfl

theorem decode_encode_append (word : UInt32) (rest : List UInt8) :
    decode (encode word ++ rest) = word := by
  have bound := word.toNat_lt
  apply UInt32.toNat.inj
  simp only [decode, encode, value, List.cons_append, List.nil_append, List.take_succ_cons,
    List.take_zero, List.foldl_cons, List.foldl_nil, UInt8.toNat_ofNat', UInt32.toNat_ofNat']
  omega

end RowStore.BigEndian
