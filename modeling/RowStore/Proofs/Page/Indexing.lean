import RowStore.Proofs.Bytes.BigEndian
import RowStore.Proofs.Page.Image

/-!
Reading by index: a reader of pages that takes every piece of an image from where it begins up to
where it ends, and has no answer where the bytes do not reach so far. It always has one, which is
that of `Page.decode`.
-/

set_option autoImplicit false

namespace RowStore

def slice? (bytes : List UInt8) (start stop : Nat) : Option (List UInt8) :=
  if start ≤ stop ∧ stop ≤ bytes.length then some ((bytes.take stop).drop start) else none

theorem slice?_of_le {bytes : List UInt8} {start length : Nat}
    (inside : start + length ≤ bytes.length) :
    slice? bytes start (start + length) = some ((bytes.drop start).take length) := by
  unfold slice?
  rw [if_pos ⟨Nat.le_add_right start length, inside⟩, List.drop_take, Nat.add_sub_cancel_left]

/-! ### Readers -/

namespace FieldType

def read? (type : FieldType) (bytes : List UInt8) : Option (Except Fault Field) :=
  if bytes.length < type.width then some (.error (.corrupt (.shortField type bytes.length)))
  else do
    let word ← slice? bytes 0 4
    match type with
    | .int => some (.ok (.int (BigEndian.decode word).toInt32))
    | .string =>
        if contentRoom < (BigEndian.decode word).toNat then
          some (.error (.corrupt (.stringLength (BigEndian.decode word).toNat)))
        else do
          let content ← slice? bytes 4 (4 + (BigEndian.decode word).toNat)
          match Utf8.decode content with
          | .ok text => some (.ok (.string text))
          | .error fault => some (.error (.corrupt (.invalidText fault)))

end FieldType

namespace Row

def readFields? (bytes : List UInt8) : List Column → Nat → Option (Except Fault (List Field))
  | [], _ => some (.ok [])
  | column :: columns, start =>
      if bytes.length < start + column.type.width then some (.error (.corrupt .truncatedRow))
      else do
        let piece ← slice? bytes start (start + column.type.width)
        match ← column.type.read? piece with
        | .error fault => some (.error fault)
        | .ok field => do
            let fields ← readFields? bytes columns (start + column.type.width)
            some (fields.map (field :: ·))

end Row

namespace Page

/-- Reads the content of a slot of an image, under the header of the image. -/
def readSlot? (id : PageId) (schema : Schema) (image header : List UInt8) (slot : Nat) :
    Option (Except Fault (Option Row)) := do
  let byte ← header[slot / 8]?
  if byte.toBitVec.getLsbD (slot % 8) then do
    let start := header.length + slot * schema.width
    let piece ← slice? image start (start + schema.width)
    let fields ← Row.readFields? piece schema.columns 0
    some (fields.map (fun fields => some (Row.storedAt ⟨schema, fields, none⟩ ⟨id, slot⟩)))
  else some (.ok none)

def readSlots? (id : PageId) (schema : Schema) (image header : List UInt8) :
    Nat → Nat → Option (Except Fault (List (Option Row)))
  | _, 0 => some (.ok [])
  | slot, count + 1 => do
      match ← readSlot? id schema image header slot with
      | .error fault => some (.error fault)
      | .ok content => do
          let contents ← readSlots? id schema image header (slot + 1) count
          some (contents.map (content :: ·))

def read? (id : PageId) (schema : Schema) (image : List UInt8) : Option (Except Fault Page) :=
  let slots := Geometry.slotCount image.length schema.width
  if slots = 0 then some (.error (.corrupt (.noSlots image.length schema.width)))
  else do
    let header ← slice? image 0 (Geometry.headerLength slots)
    let contents ← readSlots? id schema image header 0 slots
    some (contents.map (fun contents => ⟨id, schema, image.length, header, contents, none⟩))

end Page

/-! ### Answers -/

theorem slice?_front {bytes : List UInt8} {length : Nat} (inside : length ≤ bytes.length) :
    slice? bytes 0 length = some (bytes.take length) := by
  have front : 0 + length ≤ bytes.length := by omega
  have found := slice?_of_le front
  rw [Nat.zero_add, List.drop_zero] at found
  exact found

namespace FieldType

theorem four_le_width (type : FieldType) : 4 ≤ type.width := by
  cases type
  · exact Nat.le_refl 4
  · exact Nat.le_add_right 4 contentRoom

theorem read?_eq {type : FieldType} {bytes : List UInt8} (enough : type.width ≤ bytes.length) :
    type.read? (bytes.take type.width) = some (type.decode bytes) := by
  have four := type.four_le_width
  have length : (bytes.take type.width).length = type.width := List.length_take_of_le enough
  have word : slice? (bytes.take type.width) 0 4 = some (bytes.take 4) := by
    rw [slice?_front (by omega), List.take_take, Nat.min_eq_left four]
  have same : BigEndian.decode (bytes.take 4) = BigEndian.decode bytes :=
    BigEndian.decode_take (by omega) (Nat.le_refl 4)
  unfold read? decode
  rw [length, if_neg (Nat.lt_irrefl _), if_neg (Nat.not_lt.mpr enough), word]
  cases type with
  | int => rw [Option.bind_eq_bind, Option.bind_some, same]
  | string =>
      rw [Option.bind_eq_bind, Option.bind_some, same]
      unfold decodeContent
      dsimp only
      split
      · rfl
      · rename_i short
        have within : 4 + (BigEndian.decode bytes).toNat ≤ width .string :=
          Nat.add_le_add_left (Nat.not_lt.mp short) 4
        have content : slice? (bytes.take (width .string)) 4
            (4 + (BigEndian.decode bytes).toNat) =
              some ((bytes.drop 4).take (BigEndian.decode bytes).toNat) := by
          rw [slice?_of_le (by omega), List.drop_take, List.take_take,
            Nat.min_eq_left (by omega)]
        rw [content, Option.bind_some]
        cases Utf8.decode ((bytes.drop 4).take (BigEndian.decode bytes).toNat) <;> rfl

end FieldType

theorem Row.readFields?_eq (bytes : List UInt8) (columns : List Column) (start : Nat) :
    readFields? bytes columns start = some (decodeFields columns (bytes.drop start)) := by
  induction columns generalizing start with
  | nil => rfl
  | cons column columns ih =>
      unfold readFields? decodeFields
      rw [List.length_drop]
      have four := column.type.four_le_width
      by_cases short : bytes.length < start + column.type.width
      · rw [if_pos short, if_pos (by omega)]
      · have enough : start + column.type.width ≤ bytes.length := Nat.not_lt.mp short
        have behind : column.type.width ≤ (bytes.drop start).length := by
          rw [List.length_drop]
          omega
        rw [if_neg short, if_neg (by omega), slice?_of_le enough, Option.bind_eq_bind,
          Option.bind_some, FieldType.read?_eq behind, Option.bind_eq_bind, Option.bind_some]
        cases column.type.decode (bytes.drop start) with
        | error fault => rfl
        | ok field =>
            dsimp only
            rw [ih, List.drop_drop]
            rfl

namespace Page

theorem readSlot?_eq {id : PageId} {schema : Schema} {image header : List UInt8} {slot : Nat}
    (byte : slot / 8 < header.length)
    (inside : header.length + slot * schema.width + schema.width ≤ image.length) :
    readSlot? id schema image header slot =
      some (decodeSlot id schema header slot
        (image.drop (header.length + slot * schema.width))) := by
  unfold readSlot? decodeSlot Bitmap.isSet
  rw [List.getElem?_eq_getElem byte, Option.bind_eq_bind, Option.bind_some]
  dsimp only
  split
  · rw [slice?_of_le inside, Option.bind_eq_bind, Option.bind_some, Row.readFields?_eq,
      List.drop_zero, Option.bind_eq_bind, Option.bind_some]
    unfold Row.decode
    cases Row.decodeFields schema.columns
      ((image.drop (header.length + slot * schema.width)).take schema.width) <;> rfl
  · rfl

theorem readSlots?_eq {id : PageId} {schema : Schema} {image header : List UInt8}
    {slot count : Nat} (bits : slot + count ≤ header.length * 8)
    (inside : header.length + (slot + count) * schema.width ≤ image.length) :
    readSlots? id schema image header slot count =
      some (decodeSlots id schema header slot count
        (image.drop (header.length + slot * schema.width))) := by
  induction count generalizing slot with
  | zero => rfl
  | succ count ih =>
      have next : header.length + (slot + 1 + count) * schema.width ≤ image.length := by
        rw [Nat.add_assoc, Nat.add_comm 1 count]
        exact inside
      have fits : header.length + slot * schema.width + schema.width ≤ image.length := by
        have := Nat.mul_le_mul_right schema.width (show slot + 1 ≤ slot + 1 + count by omega)
        rw [Nat.add_mul slot 1, Nat.one_mul] at this
        omega
      rw [decodeSlots_succ, List.drop_drop, Nat.add_assoc header.length,
        ← Nat.succ_mul slot schema.width]
      unfold readSlots?
      rw [readSlot?_eq (by omega) fits, Option.bind_eq_bind, Option.bind_some]
      cases decodeSlot id schema header slot
          (image.drop (header.length + slot * schema.width)) with
      | error fault => rfl
      | ok content =>
          dsimp only
          rw [ih (by omega) next]
          rfl

theorem read?_eq (id : PageId) (schema : Schema) (image : List UInt8) :
    read? id schema image = some (decode id schema image) := by
  have room := Geometry.header_add_slots_le image.length schema.width
  unfold read? decode
  dsimp only
  split
  · rfl
  · have inside :
        Geometry.headerLength (Geometry.slotCount image.length schema.width) ≤ image.length := by
      omega
    have length := List.length_take_of_le inside
    rw [slice?_front inside, Option.bind_eq_bind, Option.bind_some,
      readSlots?_eq
        (by
          rw [length]
          unfold Geometry.headerLength
          omega)
        (by
          rw [length, Nat.zero_add]
          exact room),
      length, Nat.zero_mul, Nat.add_zero]
    rfl

end Page

end RowStore
