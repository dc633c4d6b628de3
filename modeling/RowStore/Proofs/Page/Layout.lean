import Mathlib.Data.List.Basic
import RowStore.Proofs.Page.Indexing

/-!
Image layout: where every field of a page has its bytes, and which of them count. An image can be
read when the texts of its rows can be, and the page that is read from it is written back with the
bytes that count as they were, and zeros for all others.
-/

set_option autoImplicit false

namespace RowStore

/-- The bytes begin with the length of a text that has room in a field, and with that text. -/
def HoldsText (bytes : List UInt8) : Prop :=
  BigEndian.value (bytes.take 4) ≤ 128 ∧
    ∃ text, Utf8.encode text = (bytes.drop 4).take (BigEndian.value (bytes.take 4))

/-! ### Fields -/

namespace FieldType

/-- How many of the bytes of a stored field count: all of an integer, and of a text its length and
as much content as this says. -/
def used : FieldType → List UInt8 → Nat
  | .int, _ => 4
  | .string, bytes => 4 + BigEndian.value (bytes.take 4)

theorem used_le_width {type : FieldType} {bytes : List UInt8}
    (holds : type = .string → HoldsText bytes) : type.used bytes ≤ type.width := by
  cases type with
  | int => exact Nat.le_refl 4
  | string => exact Nat.add_le_add_left (holds rfl).1 4

theorem decode_take {type : FieldType} {bytes : List UInt8} {length : Nat}
    (enough : type.width ≤ bytes.length) (within : type.width ≤ length) :
    type.decode (bytes.take length) = type.decode bytes := by
  have four := type.four_le_width
  have same : BigEndian.decode (bytes.take length) = BigEndian.decode bytes :=
    BigEndian.decode_take (by omega) (by omega)
  unfold decode
  rw [List.length_take, if_neg (by omega), if_neg (by omega), same]
  cases type with
  | int => rfl
  | string =>
      dsimp only
      unfold decodeContent
      split
      · rfl
      · rename_i short
        have fits : 4 + contentRoom ≤ length := within
        rw [List.drop_take, List.take_take, Nat.min_eq_left (by omega)]

theorem exists_decode_iff {type : FieldType} {bytes : List UInt8}
    (enough : type.width ≤ bytes.length) :
    (∃ field, type.decode bytes = .ok field) ↔ (type = .string → HoldsText bytes) := by
  have four := type.four_le_width
  have word := BigEndian.toNat_decode (Nat.le_trans four enough)
  unfold decode
  rw [if_neg (Nat.not_lt.mpr enough)]
  cases type with
  | int => exact ⟨fun _ other => (nomatch other), fun _ => ⟨_, rfl⟩⟩
  | string =>
      dsimp only
      unfold decodeContent HoldsText
      rw [word]
      constructor
      · rintro ⟨field, read⟩ _
        split at read
        · cases read
        · rename_i short
          split at read
          · rename_i text decoded
            exact ⟨Nat.not_lt.mp short, text, Utf8.encode_of_decode decoded⟩
          · cases read
      · intro holds
        obtain ⟨short, text, encoded⟩ := holds rfl
        refine ⟨.string text, ?_⟩
        have room : ¬contentRoom < BigEndian.value (bytes.take 4) := Nat.not_lt.mpr short
        rw [if_neg room, ← encoded, Utf8.decode_encode]

/-- A field that was read is written with the bytes that count as they were, then zeros. -/
theorem encode_of_decode {type : FieldType} {bytes : List UInt8} {field : Field}
    (read : type.decode bytes = .ok field) :
    type.used bytes ≤ type.width ∧ type.width ≤ bytes.length ∧
      field.encode = bytes.take (type.used bytes) ++
        List.replicate (type.width - type.used bytes) 0 := by
  have four := type.four_le_width
  unfold decode at read
  split at read
  · cases read
  · rename_i enough
    have front : BigEndian.encode (BigEndian.decode bytes) = bytes.take 4 :=
      BigEndian.encode_decode (by omega)
    cases type with
    | int =>
        cases read
        exact ⟨Nat.le_refl 4, Nat.not_lt.mp enough, front.trans (List.append_nil _).symm⟩
    | string =>
        have number : (BigEndian.decode bytes).toNat = BigEndian.value (bytes.take 4) :=
          BigEndian.toNat_decode (by omega)
        dsimp only at read
        unfold decodeContent at read
        rw [number] at read
        split at read
        · cases read
        · rename_i short
          split at read
          · rename_i text decoded
            cases read
            have room : 4 + contentRoom ≤ bytes.length := Nat.not_lt.mp enough
            have length : ((bytes.drop 4).take (BigEndian.value (bytes.take 4))).length =
                BigEndian.value (bytes.take 4) := by
              rw [List.length_take, List.length_drop]
              omega
            have content : Field.content text =
                (bytes.drop 4).take (BigEndian.value (bytes.take 4)) := by
              have written := Utf8.encode_of_decode decoded
              unfold Field.content
              rw [Utf8.clip_of_length_le (by rw [written]; omega), written]
            refine ⟨Nat.add_le_add_left (Nat.not_lt.mp short) 4, room, ?_⟩
            unfold Field.encode used width
            dsimp only
            rw [content, length, ← number, UInt32.ofNat_toNat, front, number, List.take_add,
              Nat.add_sub_add_left]
          · cases read

theorem getElem?_encode_of_decode {type : FieldType} {bytes : List UInt8} {field : Field}
    (read : type.decode bytes = .ok field) {offset : Nat} (inside : offset < type.width) :
    field.encode[offset]? = if offset < type.used bytes then bytes[offset]? else some 0 := by
  obtain ⟨bound, enough, written⟩ := encode_of_decode read
  have length : (bytes.take (type.used bytes)).length = type.used bytes :=
    List.length_take_of_le (Nat.le_trans bound enough)
  rw [written]
  split
  · rename_i counts
    rw [List.getElem?_append_left (by omega), List.getElem?_take_of_lt counts]
  · rename_i spare
    rw [List.getElem?_append_right (by omega), List.getElem?_replicate, if_pos (by omega)]

end FieldType

/-! ### Rows -/

namespace Row

def columnStart (columns : List Column) (index : Nat) : Nat :=
  Schema.width ⟨columns.take index⟩

theorem columnStart_succ (column : Column) (columns : List Column) (index : Nat) :
    columnStart (column :: columns) (index + 1) =
      column.type.width + columnStart columns index := rfl

theorem columnStart_add_le {columns : List Column} {index : Nat} {column : Column}
    (found : columns[index]? = some column) :
    columnStart columns index + column.type.width ≤ Schema.width ⟨columns⟩ := by
  induction columns generalizing index with
  | nil => cases found
  | cons first columns ih =>
      cases index with
      | zero =>
          cases found
          change 0 + column.type.width ≤ column.type.width + Schema.width ⟨columns⟩
          omega
      | succ index =>
          have later := ih found
          rw [columnStart_succ]
          change _ ≤ first.type.width + Schema.width ⟨columns⟩
          omega

theorem exists_column {columns : List Column} {position : Nat}
    (inside : position < Schema.width ⟨columns⟩) :
    ∃ index column offset, columns[index]? = some column ∧ offset < column.type.width ∧
      position = columnStart columns index + offset := by
  induction columns generalizing position with
  | nil => exact absurd inside (Nat.not_lt_zero position)
  | cons first columns ih =>
      change position < first.type.width + Schema.width ⟨columns⟩ at inside
      by_cases here : position < first.type.width
      · exact ⟨0, first, position, rfl, here, (Nat.zero_add position).symm⟩
      · have later : position - first.type.width < Schema.width ⟨columns⟩ := by omega
        obtain ⟨index, column, offset, found, bound, same⟩ := ih later
        refine ⟨index + 1, column, offset, found, bound, ?_⟩
        rw [columnStart_succ]
        omega

theorem decodeFields_take {columns : List Column} {bytes : List UInt8} {length : Nat}
    (enough : Schema.width ⟨columns⟩ ≤ bytes.length) (within : Schema.width ⟨columns⟩ ≤ length) :
    decodeFields columns (bytes.take length) = decodeFields columns bytes := by
  induction columns generalizing bytes length with
  | nil => rfl
  | cons column columns ih =>
      change column.type.width + Schema.width ⟨columns⟩ ≤ bytes.length at enough
      change column.type.width + Schema.width ⟨columns⟩ ≤ length at within
      have later : Schema.width ⟨columns⟩ ≤ (bytes.drop column.type.width).length := by
        rw [List.length_drop]
        omega
      unfold decodeFields
      rw [List.length_take, if_neg (by omega), if_neg (by omega),
        FieldType.decode_take (by omega) (by omega), List.drop_take, ih later (by omega)]

theorem exists_decodeFields_iff {columns : List Column} {bytes : List UInt8}
    (enough : Schema.width ⟨columns⟩ ≤ bytes.length) :
    (∃ fields, decodeFields columns bytes = .ok fields) ↔
      ∀ index, columns[index]?.map Column.type = some .string →
        HoldsText (bytes.drop (columnStart columns index)) := by
  induction columns generalizing bytes with
  | nil => exact ⟨fun _ index found => (nomatch found), fun _ => ⟨[], rfl⟩⟩
  | cons column columns ih =>
      change column.type.width + Schema.width ⟨columns⟩ ≤ bytes.length at enough
      have later : Schema.width ⟨columns⟩ ≤ (bytes.drop column.type.width).length := by
        rw [List.length_drop]
        omega
      have first := FieldType.exists_decode_iff (Nat.le_trans (Nat.le_add_right _ _) enough)
      have rest := ih later
      simp only [List.drop_drop] at rest
      constructor
      · rintro ⟨fields, read⟩ index declared
        obtain ⟨field, others, leading, following, rfl⟩ := exists_of_decodeFields_cons read
        cases index with
        | zero => exact first.mp ⟨field, leading⟩ (Option.some.inj declared)
        | succ index => exact rest.mp ⟨others, following⟩ index declared
      · intro holds
        obtain ⟨field, leading⟩ := first.mpr (fun text => holds 0 (congrArg some text))
        obtain ⟨others, following⟩ := rest.mpr (fun index => holds (index + 1))
        unfold decodeFields
        rw [if_neg (by omega), leading, following]
        exact ⟨field :: others, rfl⟩

theorem getElem?_encode_of_decodeFields {columns : List Column} {bytes : List UInt8}
    {fields : List Field} (read : decodeFields columns bytes = .ok fields) {index : Nat}
    {column : Column} (found : columns[index]? = some column) {offset : Nat}
    (inside : offset < column.type.width) :
    (fields.flatMap Field.encode)[columnStart columns index + offset]? =
      if offset < column.type.used (bytes.drop (columnStart columns index)) then
        bytes[columnStart columns index + offset]?
      else some 0 := by
  induction columns generalizing bytes fields index with
  | nil => cases found
  | cons first columns ih =>
      obtain ⟨field, others, leading, following, rfl⟩ := exists_of_decodeFields_cons read
      have length : field.encode.length = first.type.width := by
        rw [Field.length_encode, (Field.stored_of_decode leading).1]
      rw [List.flatMap_cons]
      cases index with
      | zero =>
          cases found
          change (field.encode ++ others.flatMap Field.encode)[0 + offset]? =
            if offset < column.type.used bytes then bytes[0 + offset]? else some 0
          rw [Nat.zero_add, List.getElem?_append_left (by omega)]
          exact FieldType.getElem?_encode_of_decode leading inside
      | succ index =>
          have later := ih following found
          rw [columnStart_succ, List.getElem?_append_right (by omega), length,
            Nat.add_assoc, Nat.add_sub_cancel_left, later, List.drop_drop, List.getElem?_drop]

end Row

/-! ### Slots -/

namespace Page

theorem of_decodeSlots {id : PageId} {schema : Schema} {header : List UInt8} {first count : Nat}
    {bytes : List UInt8} {contents : List (Option Row)}
    (read : decodeSlots id schema header first count bytes = .ok contents) {slot : Nat}
    (inside : slot < count) :
    ∃ content, contents[slot]? = some content ∧
      decodeSlot id schema header (first + slot) (bytes.drop (slot * schema.width)) =
        .ok content := by
  induction count generalizing first bytes contents slot with
  | zero => exact absurd inside (Nat.not_lt_zero slot)
  | succ count ih =>
      rw [decodeSlots_succ] at read
      cases leading : decodeSlot id schema header first bytes with
      | error fault =>
          rw [leading] at read
          cases read
      | ok content =>
          cases following : decodeSlots id schema header (first + 1) count
              (bytes.drop schema.width) with
          | error fault =>
              rw [leading, following] at read
              cases read
          | ok others =>
              rw [leading, following] at read
              cases read
              cases slot with
              | zero =>
                  refine ⟨content, rfl, ?_⟩
                  rw [Nat.zero_mul, List.drop_zero, Nat.add_zero]
                  exact leading
              | succ slot =>
                  obtain ⟨other, found, later⟩ := ih following (Nat.lt_of_succ_lt_succ inside)
                  refine ⟨other, found, ?_⟩
                  rw [List.drop_drop, Nat.add_comm schema.width, ← Nat.succ_mul] at later
                  rw [← later, Nat.add_assoc, Nat.add_comm 1 slot]

theorem exists_decodeSlots {id : PageId} {schema : Schema} {header : List UInt8}
    {first count : Nat} {bytes : List UInt8}
    (each : ∀ slot, slot < count → ∃ content,
      decodeSlot id schema header (first + slot) (bytes.drop (slot * schema.width)) =
        .ok content) :
    ∃ contents, decodeSlots id schema header first count bytes = .ok contents := by
  induction count generalizing first bytes with
  | zero => exact ⟨[], rfl⟩
  | succ count ih =>
      obtain ⟨content, leading⟩ := each 0 (Nat.zero_lt_succ count)
      rw [Nat.zero_mul, List.drop_zero, Nat.add_zero] at leading
      have later (slot : Nat) (inside : slot < count) : ∃ content,
          decodeSlot id schema header (first + 1 + slot)
            ((bytes.drop schema.width).drop (slot * schema.width)) = .ok content := by
        rw [List.drop_drop, Nat.add_comm schema.width, ← Nat.succ_mul, Nat.add_assoc,
          Nat.add_comm 1 slot]
        exact each (slot + 1) (Nat.succ_lt_succ inside)
      obtain ⟨others, following⟩ := ih later
      rw [decodeSlots_succ, leading, following]
      exact ⟨content :: others, rfl⟩

/-- A slot can be read when it is vacant, and otherwise when its fields can be. -/
theorem exists_decodeSlot_iff {id : PageId} {schema : Schema} {header : List UInt8} {slot : Nat}
    {bytes : List UInt8} (enough : schema.width ≤ bytes.length) :
    (∃ content, decodeSlot id schema header slot bytes = .ok content) ↔
      (Bitmap.isSet header slot = true →
        ∃ fields, Row.decodeFields schema.columns bytes = .ok fields) := by
  unfold decodeSlot Row.decode
  rw [Row.decodeFields_take enough (Nat.le_refl _)]
  cases Bitmap.isSet header slot with
  | false => exact ⟨fun _ used => (nomatch used), fun _ => ⟨none, rfl⟩⟩
  | true =>
      cases Row.decodeFields schema.columns bytes with
      | error fault =>
          constructor
          · rintro ⟨content, read⟩
            cases read
          · intro readable
            obtain ⟨fields, read⟩ := readable rfl
            cases read
      | ok fields => exact ⟨fun _ _ => ⟨fields, rfl⟩, fun _ => ⟨_, rfl⟩⟩

/-! ### Layout -/

def slotsOf (schema : Schema) (image : List UInt8) : Nat :=
  Geometry.slotCount image.length schema.width

def slotStart (schema : Schema) (image : List UInt8) (slot : Nat) : Nat :=
  Geometry.headerLength (slotsOf schema image) + slot * schema.width

def fieldStart (schema : Schema) (image : List UInt8) (slot index : Nat) : Nat :=
  slotStart schema image slot + Row.columnStart schema.columns index

def Occupied (schema : Schema) (image : List UInt8) (slot : Nat) : Prop :=
  slot < slotsOf schema image ∧ Bitmap.isSet image slot = true

/-- There is room for a slot, and every string field of a row holds a text. -/
def Readable (schema : Schema) (image : List UInt8) : Prop :=
  1 ≤ slotsOf schema image ∧ ∀ slot index, Occupied schema image slot →
    schema.type? index = some .string →
      HoldsText (image.drop (fieldStart schema image slot index))

/-- The bytes that count: those of the header, and of the fields of the rows. -/
inductive Kept (schema : Schema) (image : List UInt8) : Nat → Prop where
  | header {position : Nat}
      (inside : position < Geometry.headerLength (slotsOf schema image)) :
      Kept schema image position
  | field {slot index offset : Nat} {type : FieldType} (occupied : Occupied schema image slot)
      (declared : schema.type? index = some type)
      (counts : offset < type.used (image.drop (fieldStart schema image slot index))) :
      Kept schema image (fieldStart schema image slot index + offset)

/-- The bytes that do not count: those of vacant slots, those behind a text in its field, and those
behind the last slot. -/
inductive Spare (schema : Schema) (image : List UInt8) : Nat → Prop where
  | vacant {slot offset : Nat} (inside : slot < slotsOf schema image)
      (vacant : Bitmap.isSet image slot = false) (within : offset < schema.width) :
      Spare schema image (slotStart schema image slot + offset)
  | padding {slot index offset : Nat} (occupied : Occupied schema image slot)
      (declared : schema.type? index = some .string)
      (behind : FieldType.used .string (image.drop (fieldStart schema image slot index)) ≤ offset)
      (within : offset < FieldType.width .string) :
      Spare schema image (fieldStart schema image slot index + offset)
  | rest {position : Nat} (behind : slotStart schema image (slotsOf schema image) ≤ position)
      (inside : position < image.length) : Spare schema image position

theorem kept_or_spare {schema : Schema} {image : List UInt8} {position : Nat}
    (inside : position < image.length) :
    Kept schema image position ∨ Spare schema image position := by
  by_cases header : position < Geometry.headerLength (slotsOf schema image)
  · exact .inl (.header header)
  by_cases behind : slotStart schema image (slotsOf schema image) ≤ position
  · exact .inr (.rest behind inside)
  obtain ⟨distance, rfl⟩ := Nat.exists_eq_add_of_le (Nat.not_lt.mp header)
  have before : distance < slotsOf schema image * schema.width := by
    unfold slotStart at behind
    omega
  have wide : 0 < schema.width := Nat.pos_of_ne_zero fun narrow => by
    rw [narrow, Nat.mul_zero] at before
    exact Nat.not_lt_zero distance before
  have slot : distance / schema.width < slotsOf schema image :=
    Nat.div_lt_of_lt_mul (Nat.mul_comm schema.width _ ▸ before)
  have within : distance % schema.width < schema.width := Nat.mod_lt distance wide
  have place : Geometry.headerLength (slotsOf schema image) + distance =
      slotStart schema image (distance / schema.width) + distance % schema.width := by
    unfold slotStart
    rw [Nat.add_assoc, Nat.mul_comm, Nat.div_add_mod]
  rw [place]
  cases used : Bitmap.isSet image (distance / schema.width) with
  | false => exact .inr (.vacant slot used within)
  | true =>
      obtain ⟨index, column, offset, found, fits, same⟩ := Row.exists_column within
      have declared : schema.type? index = some column.type := congrArg (Option.map _) found
      rw [same, ← Nat.add_assoc]
      by_cases counts : offset <
          column.type.used (image.drop (fieldStart schema image (distance / schema.width) index))
      · exact .inl (.field ⟨slot, used⟩ declared counts)
      · cases type : column.type with
        | int =>
            rw [type] at counts fits
            exact absurd fits counts
        | string =>
            rw [type] at declared counts fits
            exact .inr (.padding ⟨slot, used⟩ declared (Nat.not_lt.mp counts) fits)

/-! ### Reading -/

theorem isSet_take {image : List UInt8} {slots slot : Nat} (inside : slot < slots) :
    Bitmap.isSet (image.take (Geometry.headerLength slots)) slot = Bitmap.isSet image slot := by
  unfold Bitmap.isSet Geometry.headerLength
  rw [List.getElem?_take_of_lt (by omega)]

theorem decodeSlot_take {id : PageId} {schema : Schema} {image bytes : List UInt8}
    {slots slot : Nat} (inside : slot < slots) :
    decodeSlot id schema (image.take (Geometry.headerLength slots)) slot bytes =
      decodeSlot id schema image slot bytes := by
  unfold decodeSlot
  rw [isSet_take inside]

theorem slotStart_add_le {schema : Schema} {image : List UInt8} {slot : Nat}
    (inside : slot < slotsOf schema image) :
    slotStart schema image slot + schema.width ≤ image.length := by
  have room := Geometry.header_add_slots_le image.length schema.width
  have last := Nat.mul_le_mul_right schema.width (Nat.succ_le_of_lt inside)
  rw [Nat.succ_mul] at last
  unfold slotStart
  unfold slotsOf at last ⊢
  omega

theorem slots_of_decode {id : PageId} {schema : Schema} {image : List UInt8} {page : Page}
    (read : decode id schema image = .ok page) :
    page.header = image.take (Geometry.headerLength (slotsOf schema image)) ∧
      ∀ slot, slot < slotsOf schema image → ∃ content, page.slots[slot]? = some content ∧
        decodeSlot id schema image slot (image.drop (slotStart schema image slot)) =
          .ok content := by
  unfold decode at read
  dsimp only at read
  split at read
  · cases read
  · cases found : decodeSlots id schema
        (image.take (Geometry.headerLength (slotsOf schema image))) 0 (slotsOf schema image)
        (image.drop (Geometry.headerLength (slotsOf schema image))) with
    | error fault =>
        unfold slotsOf at found
        rw [found] at read
        cases read
    | ok contents =>
        have each (slot : Nat) (inside : slot < slotsOf schema image) := of_decodeSlots found inside
        unfold slotsOf at found
        rw [found] at read
        cases read
        refine ⟨rfl, ?_⟩
        intro slot inside
        obtain ⟨content, stored, decoded⟩ := each slot inside
        rw [Nat.zero_add, decodeSlot_take inside, List.drop_drop] at decoded
        exact ⟨content, stored, decoded⟩

theorem exists_decode_iff {id : PageId} {schema : Schema} {image : List UInt8} :
    (∃ page, decode id schema image = .ok page) ↔ Readable schema image := by
  constructor
  · rintro ⟨page, read⟩
    obtain ⟨wellFormed, _, sameSchema, sameSize, _⟩ := wellFormed_of_decode read
    have inhabited := wellFormed.inhabited
    rw [wellFormed.slots, sameSchema, sameSize] at inhabited
    refine ⟨inhabited, ?_⟩
    intro slot index occupied declared
    obtain ⟨content, _, decoded⟩ := (slots_of_decode read).2 slot occupied.1
    have room := slotStart_add_le occupied.1
    have enough : schema.width ≤ (image.drop (slotStart schema image slot)).length := by
      rw [List.length_drop]
      omega
    have readable := (exists_decodeSlot_iff enough).mp ⟨content, decoded⟩ occupied.2
    have holds := (Row.exists_decodeFields_iff enough).mp readable index declared
    rw [List.drop_drop] at holds
    exact holds
  · rintro ⟨inhabited, holds⟩
    have each (slot : Nat) (inside : slot < slotsOf schema image) : ∃ content,
        decodeSlot id schema (image.take (Geometry.headerLength (slotsOf schema image)))
          (0 + slot) ((image.drop (Geometry.headerLength (slotsOf schema image))).drop
            (slot * schema.width)) = .ok content := by
      rw [Nat.zero_add, decodeSlot_take inside, List.drop_drop]
      have room := slotStart_add_le inside
      have enough : schema.width ≤ (image.drop (slotStart schema image slot)).length := by
        rw [List.length_drop]
        omega
      apply (exists_decodeSlot_iff enough).mpr
      intro used
      apply (Row.exists_decodeFields_iff enough).mpr
      intro index declared
      rw [List.drop_drop]
      exact holds slot index ⟨inside, used⟩ declared
    obtain ⟨contents, found⟩ := exists_decodeSlots each
    have some : ¬Geometry.slotCount image.length schema.width = 0 :=
      Nat.ne_of_gt (Nat.lt_of_succ_le inhabited)
    unfold slotsOf at found
    unfold decode
    dsimp only
    rw [if_neg some, found]
    exact ⟨_, rfl⟩

/-! ### Writing -/

variable {id : PageId} {schema : Schema} {image : List UInt8} {page : Page}

/-- The page that is read has as many slots, behind as long a header, as its image. -/
theorem shape_of_decode (read : decode id schema image = .ok page) :
    page.slots.length = slotsOf schema image ∧
      page.header.length = Geometry.headerLength (slotsOf schema image) := by
  obtain ⟨wellFormed, _, sameSchema, sameSize, _⟩ := wellFormed_of_decode read
  have slots := wellFormed.slots
  rw [sameSchema, sameSize] at slots
  refine ⟨slots, ?_⟩
  rw [wellFormed.header, slots]
  rfl

theorem getElem?_encode_header (read : decode id schema image = .ok page) {position : Nat}
    (inside : position < Geometry.headerLength (slotsOf schema image)) :
    page.encode[position]? = image[position]? := by
  obtain ⟨wellFormed, _⟩ := wellFormed_of_decode read
  have length := (shape_of_decode read).2
  rw [wellFormed.getElem?_header (by omega), (slots_of_decode read).1,
    List.getElem?_take_of_lt inside]

theorem getElem?_encode_slot (read : decode id schema image = .ok page) {slot : Nat}
    (inside : slot < slotsOf schema image) :
    ∃ content,
      decodeSlot id schema image slot (image.drop (slotStart schema image slot)) = .ok content ∧
        ∀ offset, offset < schema.width →
          page.encode[slotStart schema image slot + offset]? =
            (encodeSlot schema.width content)[offset]? := by
  obtain ⟨wellFormed, _, sameSchema, _⟩ := wellFormed_of_decode read
  obtain ⟨content, stored, decoded⟩ := (slots_of_decode read).2 slot inside
  refine ⟨content, decoded, ?_⟩
  intro offset within
  have place := wellFormed.getElem?_slot stored (sameSchema ▸ within)
  rw [sameSchema, (shape_of_decode read).2] at place
  exact place

theorem getElem?_encode_vacant (read : decode id schema image = .ok page) {slot offset : Nat}
    (inside : slot < slotsOf schema image) (vacant : Bitmap.isSet image slot = false)
    (within : offset < schema.width) :
    page.encode[slotStart schema image slot + offset]? = some 0 := by
  obtain ⟨content, decoded, written⟩ := getElem?_encode_slot read inside
  unfold decodeSlot at decoded
  rw [vacant] at decoded
  cases decoded
  rw [written offset within]
  exact List.getElem?_replicate_of_lt within

theorem getElem?_encode_field (read : decode id schema image = .ok page)
    {slot index offset : Nat} {type : FieldType} (occupied : Occupied schema image slot)
    (declared : schema.type? index = some type) (within : offset < type.width) :
    page.encode[fieldStart schema image slot index + offset]? =
      if offset < type.used (image.drop (fieldStart schema image slot index)) then
        image[fieldStart schema image slot index + offset]?
      else some 0 := by
  obtain ⟨content, decoded, written⟩ := getElem?_encode_slot read occupied.1
  obtain ⟨column, found, rfl⟩ := Option.map_eq_some_iff.mp declared
  have bound := Row.columnStart_add_le found
  have room := slotStart_add_le occupied.1
  have enough : schema.width ≤ (image.drop (slotStart schema image slot)).length := by
    rw [List.length_drop]
    omega
  unfold decodeSlot Row.decode at decoded
  rw [occupied.2, Row.decodeFields_take enough (Nat.le_refl _)] at decoded
  cases fields : Row.decodeFields schema.columns (image.drop (slotStart schema image slot)) with
  | error fault =>
      rw [fields] at decoded
      cases decoded
  | ok fields =>
      rw [fields] at decoded
      cases decoded
      have inside : Row.columnStart schema.columns index + offset < schema.width :=
        Nat.lt_of_lt_of_le (Nat.add_lt_add_left within _) bound
      have bytes := Row.getElem?_encode_of_decodeFields fields found within
      rw [List.drop_drop, List.getElem?_drop, ← Nat.add_assoc] at bytes
      have place := written (Row.columnStart schema.columns index + offset) inside
      rw [← Nat.add_assoc] at place
      exact place.trans bytes

theorem getElem?_encode_of_kept (read : decode id schema image = .ok page) {position : Nat}
    (kept : Kept schema image position) : page.encode[position]? = image[position]? := by
  have readable := exists_decode_iff.mp ⟨page, read⟩
  cases kept with
  | header inside => exact getElem?_encode_header read inside
  | @field slot index offset type occupied declared counts =>
      have bound := FieldType.used_le_width (fun text =>
        readable.2 slot index occupied (text ▸ declared))
      rw [getElem?_encode_field read occupied declared (Nat.lt_of_lt_of_le counts bound),
        if_pos counts]

theorem getElem?_encode_of_spare (read : decode id schema image = .ok page) {position : Nat}
    (spare : Spare schema image position) : page.encode[position]? = some 0 := by
  cases spare with
  | vacant inside vacant within => exact getElem?_encode_vacant read inside vacant within
  | padding occupied declared behind within =>
      rw [getElem?_encode_field read occupied declared within, if_neg (Nat.not_lt.mpr behind)]
  | rest behind inside =>
      obtain ⟨wellFormed, _, sameSchema, sameSize, _⟩ := wellFormed_of_decode read
      obtain ⟨slots, header⟩ := shape_of_decode read
      refine wellFormed.getElem?_rest ?_ (sameSize ▸ inside)
      rw [slots, header, sameSchema]
      exact behind

/-- Reading an image never leaves it, whatever its bytes are, and succeeds when there is room for a
slot and the string fields of the rows hold texts. The page that is read is written back as the
same image with zeros for the bytes that do not count, which is read and written as it is. -/
theorem readable_images_are_kept (id : PageId) (schema : Schema) (image : List UInt8) :
    read? id schema image = some (decode id schema image) ∧
      ((∃ page, decode id schema image = .ok page) ↔ Readable schema image) ∧
        ∀ page, decode id schema image = .ok page →
          page.encode.length = image.length ∧
            (∀ position, Kept schema image position →
              page.encode[position]? = image[position]?) ∧
            (∀ position, position < image.length → ¬Kept schema image position →
              page.encode[position]? = some 0) ∧
            (page.encode = image ↔
              ∀ position, Spare schema image position → image[position]? = some 0) ∧
            ∃ again, decode id schema page.encode = .ok again ∧ again.encode = page.encode := by
  refine ⟨read?_eq id schema image, exists_decode_iff, ?_⟩
  intro page read
  obtain ⟨wellFormed, sameId, sameSchema, sameSize, _, cut⟩ := wellFormed_of_decode read
  have length : page.encode.length = image.length := wellFormed.length_encode.trans sameSize
  refine ⟨length, fun _ => getElem?_encode_of_kept read, ?_, ?_, ?_⟩
  · intro position inside spent
    exact getElem?_encode_of_spare read ((kept_or_spare inside).resolve_left spent)
  · constructor
    · intro same position spare
      rw [← same]
      exact getElem?_encode_of_spare read spare
    · intro zeros
      apply List.ext_getElem?
      intro position
      by_cases inside : position < image.length
      · cases kept_or_spare inside with
        | inl kept => exact getElem?_encode_of_kept read kept
        | inr spare => rw [getElem?_encode_of_spare read spare, zeros position spare]
      · rw [List.getElem?_eq_none (by omega), List.getElem?_eq_none (by omega)]
  · refine ⟨page, ?_, rfl⟩
    have again := wellFormed.decode_encode
    rw [sameId, sameSchema, cut] at again
    exact again

/-- A text of two bytes in one of two slots, with other bytes behind it, in the vacant slot and
behind the slots, and with bits of the header set that belong to no slot. -/
theorem readable_images_are_kept_spare_bytes :
    let id : PageId := ⟨⟨0⟩, 3⟩
    let schema : Schema := ⟨[⟨.string, none⟩, ⟨.int, none⟩]⟩
    let text : List UInt8 := [0, 0, 0, 2, 0xC3, 0xA9]
    let image := 0xFD :: text ++ List.replicate 126 7 ++ [0, 0, 1, 0] ++ List.replicate 143 9
    let row : Row := ⟨schema, [.string "é", .int 256], some ⟨id, 0⟩⟩
    let page : Page := ⟨id, schema, 280, [0xFD], [some row, none], none⟩
    decode id schema image = .ok page ∧
      page.encode = 0xFD :: text ++ List.replicate 126 0 ++ [0, 0, 1, 0] ++ List.replicate 143 0 ∧
        page.encode.length = image.length ∧
          (∀ position, Kept schema image position → page.encode[position]? = image[position]?) ∧
          (∀ position, position < image.length → ¬Kept schema image position →
            page.encode[position]? = some 0) ∧
          (page.encode = image ↔
            ∀ position, Spare schema image position → image[position]? = some 0) ∧
          ∃ again, decode id schema page.encode = .ok again ∧ again.encode = page.encode := by
  intro id schema text image row page
  have read : decode id schema image = .ok page := by decide +kernel
  exact ⟨read, by decide +kernel, (readable_images_are_kept id schema image).2.2 page read⟩

end Page

end RowStore
