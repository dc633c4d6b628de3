import RowStore.Bytes.BigEndian

/-!
Big-endian words that were read: the four bytes at the front spell the word, and writing it gives
them back.
-/

set_option autoImplicit false

namespace RowStore.BigEndian

private theorem exists_front {bytes : List UInt8} (enough : 4 ≤ bytes.length) :
    ∃ first second third fourth rest, bytes = first :: second :: third :: fourth :: rest := by
  match bytes, enough with
  | first :: second :: third :: fourth :: rest, _ => exact ⟨first, second, third, fourth, rest, rfl⟩

private theorem value_front (first second third fourth : UInt8) :
    value [first, second, third, fourth] = first.toNat * 0x1000000 + second.toNat * 0x10000 +
      third.toNat * 0x100 + fourth.toNat := by
  simp only [value, List.foldl_cons, List.foldl_nil]
  omega

private theorem toNat_decode_cons (first second third fourth : UInt8) (rest : List UInt8) :
    (decode (first :: second :: third :: fourth :: rest)).toNat =
      value [first, second, third, fourth] := by
  have bounds := And.intro first.toNat_lt (And.intro second.toNat_lt
    (And.intro third.toNat_lt fourth.toNat_lt))
  change (UInt32.ofNat (value [first, second, third, fourth])).toNat = _
  rw [UInt32.toNat_ofNat', value_front]
  omega

theorem toNat_decode {bytes : List UInt8} (enough : 4 ≤ bytes.length) :
    (decode bytes).toNat = value (bytes.take 4) := by
  obtain ⟨first, second, third, fourth, rest, rfl⟩ := exists_front enough
  exact toNat_decode_cons first second third fourth rest

theorem decode_take {bytes : List UInt8} {length : Nat} (enough : 4 ≤ bytes.length)
    (within : 4 ≤ length) : decode (bytes.take length) = decode bytes := by
  apply UInt32.toNat.inj
  rw [toNat_decode enough, toNat_decode (by rw [List.length_take]; omega), List.take_take,
    Nat.min_eq_left within]

theorem encode_decode {bytes : List UInt8} (enough : 4 ≤ bytes.length) :
    encode (decode bytes) = bytes.take 4 := by
  obtain ⟨first, second, third, fourth, rest, rfl⟩ := exists_front enough
  have bounds := And.intro first.toNat_lt (And.intro second.toNat_lt
    (And.intro third.toNat_lt fourth.toNat_lt))
  have byte {number : Nat} (kept : UInt8) (same : number % 256 = kept.toNat) :
      UInt8.ofNat number = kept := by
    apply UInt8.toNat.inj
    rw [UInt8.toNat_ofNat']
    exact same
  unfold encode
  rw [toNat_decode_cons, value_front]
  simp only [List.take_succ_cons, List.take_zero]
  rw [byte first (by omega), byte second (by omega), byte third (by omega),
    byte fourth (by omega)]

end RowStore.BigEndian
