import RowStore.Proofs.Text.Utf8
import RowStore.Row

/-!
Stored rows: what is read back of a row is the row, with its strings cut to the room reserved for
them. A row that was read is cut already.
-/

set_option autoImplicit false

namespace RowStore

/-! ### Fields -/

namespace Field

def stored : Field → Field
  | .int value => .int value
  | .string text => .string (Utf8.clip FieldType.contentRoom text)

/-- What is to be read back of a field: an integer as it is, and of a text as many leading
characters as 128 bytes take. -/
inductive ReadsBack : Field → Field → Prop where
  | int (value : Int32) : ReadsBack (.int value) (.int value)
  | string {text cut : String} (leads : cut.toList <+: text.toList)
      (fits : (Utf8.encode cut).length ≤ 128)
      (longest : ∀ leading : String, leading.toList <+: text.toList →
        (Utf8.encode leading).length ≤ 128 → leading.toList <+: cut.toList) :
      ReadsBack (.string text) (.string cut)

theorem readsBack_stored (field : Field) : field.ReadsBack field.stored := by
  cases field with
  | int value => exact .int value
  | string text =>
      have cut : (Utf8.clip FieldType.contentRoom text).toList =
          Utf8.clipChars FieldType.contentRoom text.toList := String.toList_ofList
      refine .string ?_ (Utf8.length_encode_clip_le FieldType.contentRoom text) ?_
      · rw [cut]
        exact Utf8.clipChars_prefix FieldType.contentRoom text.toList
      · intro leading leads fits
        rw [cut]
        exact Utf8.prefix_clipChars leads fits

/-- A character that the room has only one byte left for is cut off, with all that follows. -/
example : (Field.string (String.ofList (List.replicate 127 'a' ++ ['é', 'b']))).stored =
    .string (String.ofList (List.replicate 127 'a')) := by decide +kernel

theorem length_content_le (text : String) : (content text).length ≤ FieldType.contentRoom :=
  Utf8.length_encode_clip_le FieldType.contentRoom text

theorem length_encode (field : Field) : field.encode.length = field.type.width := by
  cases field with
  | int value => exact BigEndian.length_encode value.toUInt32
  | string text =>
      have fits := length_content_le text
      simp only [encode, type, FieldType.width, List.length_append, BigEndian.length_encode,
        List.length_replicate]
      omega

theorem decode_encode (field : Field) (rest : List UInt8) :
    field.type.decode (field.encode ++ rest) = .ok field.stored := by
  have long : ¬(field.encode ++ rest).length < field.type.width := by
    rw [List.length_append, length_encode]
    exact Nat.not_lt.mpr (Nat.le_add_right _ _)
  unfold FieldType.decode
  rw [if_neg long]
  cases field with
  | int value =>
      simp only [type, encode, BigEndian.decode_encode_append, stored, Int32.toInt32_toUInt32]
  | string text =>
      have fits := length_content_le text
      have size : (UInt32.ofNat (content text).length).toNat = (content text).length := by
        rw [UInt32.toNat_ofNat']
        apply Nat.mod_eq_of_lt
        unfold FieldType.contentRoom at fits
        omega
      simp only [type, encode, List.append_assoc, BigEndian.decode_encode_append, size,
        FieldType.decodeContent, Nat.not_lt.mpr fits, if_false]
      rw [List.drop_left' (BigEndian.length_encode _), List.take_left]
      unfold content
      rw [Utf8.decode_encode]
      rfl

private theorem stored_of_decodeContent {length : Nat} {bytes : List UInt8} {field : Field}
    (read : FieldType.decodeContent length bytes = .ok field) :
    field.type = .string ∧ field.stored = field := by
  unfold FieldType.decodeContent at read
  split at read
  · cases read
  · rename_i short
    split at read
    · rename_i text found
      cases read
      have fits : (Utf8.encode text).length ≤ FieldType.contentRoom := by
        rw [Utf8.encode_of_decode found]
        exact Nat.le_trans (List.length_take_le length bytes) (Nat.not_lt.mp short)
      exact ⟨rfl, congrArg Field.string (Utf8.clip_of_length_le fits)⟩
    · cases read

/-- A field that was read has the type asked for, and is stored as it is. -/
theorem stored_of_decode {type : FieldType} {bytes : List UInt8} {field : Field}
    (read : type.decode bytes = .ok field) : field.type = type ∧ field.stored = field := by
  unfold FieldType.decode at read
  split at read
  · cases read
  · cases type with
    | int =>
        cases read
        exact ⟨rfl, rfl⟩
    | string => exact stored_of_decodeContent read

end Field

/-! ### Rows -/

namespace Row

def Typed (row : Row) : Prop :=
  row.fields.map Field.type = row.schema.columns.map Column.type

instance (row : Row) : Decidable row.Typed :=
  inferInstanceAs (Decidable (_ = _))

/-- The row that is read back after this one was stored. -/
def cut (row : Row) : Row :=
  { row with fields := row.fields.map Field.stored }

theorem cut_storedAt (row : Row) (record : RecordId) :
    (row.storedAt record).cut = row.cut.storedAt record := rfl

private theorem typed_of_misfit?_eq_none {columns : List Column} {fields : List Field}
    (same : fields.length = columns.length) {index : Nat}
    (fits : misfit? columns fields index = none) :
    fields.map Field.type = columns.map Column.type := by
  induction columns generalizing fields index with
  | nil =>
      rw [List.length_eq_zero_iff.mp same]
      rfl
  | cons column rest ih =>
      cases fields with
      | nil => cases same
      | cons field others =>
          unfold misfit? at fits
          split at fits
          · rename_i agrees
            rw [List.map_cons, List.map_cons, agrees, ih (Nat.succ.inj same) fits]
          · cases fits

theorem typed_of_ofFields {schema : Schema} {fields : List Field} {row : Row}
    (built : ofFields schema fields = .ok row) : row.Typed := by
  unfold ofFields at built
  split at built
  · rename_i same
    split at built
    · cases built
    · rename_i fits
      cases built
      exact typed_of_misfit?_eq_none same fits
  · cases built

theorem Typed.replace {row replaced : Row} (typed : row.Typed) {index : Nat} {field : Field}
    (replaces : row.replace index field = .ok replaced) : replaced.Typed := by
  unfold Row.replace at replaces
  split at replaces
  · rename_i agrees
    cases replaces
    unfold Typed at typed ⊢
    rw [List.map_set, typed]
    apply List.ext_getElem?
    intro other
    rw [List.getElem?_set]
    split
    · rename_i same
      subst same
      have declared : (row.schema.columns.map Column.type)[index]? = some field.type := by
        rw [List.getElem?_map]
        exact agrees
      obtain ⟨inside, _⟩ := List.getElem?_eq_some_iff.mp declared
      rw [if_pos inside, declared]
    · rfl
  · cases replaces

private theorem length_flatMap_encode {columns : List Column} {fields : List Field}
    (typed : fields.map Field.type = columns.map Column.type) :
    (fields.flatMap Field.encode).length =
      columns.foldr (fun column total => column.type.width + total) 0 := by
  induction columns generalizing fields with
  | nil =>
      rw [List.map_eq_nil_iff.mp typed]
      rfl
  | cons column rest ih =>
      cases fields with
      | nil => cases typed
      | cons field others =>
          obtain ⟨agrees, later⟩ := List.cons.inj typed
          rw [List.flatMap_cons, List.length_append, Field.length_encode, agrees, ih later,
            List.foldr_cons]

theorem length_encode {row : Row} (typed : row.Typed) : row.encode.length = row.schema.width :=
  length_flatMap_encode typed

theorem decodeFields_encode {columns : List Column} {fields : List Field}
    (typed : fields.map Field.type = columns.map Column.type) (rest : List UInt8) :
    decodeFields columns (fields.flatMap Field.encode ++ rest) = .ok (fields.map Field.stored) := by
  induction columns generalizing fields with
  | nil =>
      rw [List.map_eq_nil_iff.mp typed]
      rfl
  | cons column others ih =>
      cases fields with
      | nil => cases typed
      | cons field fields =>
          obtain ⟨agrees, later⟩ := List.cons.inj typed
          have long : ¬((field :: fields).flatMap Field.encode ++ rest).length <
              column.type.width := by
            rw [List.flatMap_cons, List.length_append, List.length_append, Field.length_encode,
              agrees]
            omega
          have behind : ((field :: fields).flatMap Field.encode ++ rest).drop column.type.width =
              fields.flatMap Field.encode ++ rest := by
            rw [List.flatMap_cons, List.append_assoc,
              List.drop_left' (by rw [Field.length_encode, agrees])]
          have first : column.type.decode ((field :: fields).flatMap Field.encode ++ rest) =
              .ok field.stored := by
            rw [List.flatMap_cons, List.append_assoc, ← agrees, Field.decode_encode]
          unfold decodeFields
          rw [if_neg long, first, behind, ih later]
          rfl

theorem decode_encode {row : Row} (typed : row.Typed) (rest : List UInt8) :
    decode row.schema (row.encode ++ rest) =
      .ok ⟨row.schema, row.fields.map Field.stored, none⟩ := by
  unfold decode encode
  rw [decodeFields_encode typed]
  rfl

theorem exists_of_decodeFields_cons {column : Column} {columns : List Column} {bytes : List UInt8}
    {fields : List Field} (read : decodeFields (column :: columns) bytes = .ok fields) :
    ∃ field others, column.type.decode bytes = .ok field ∧
      decodeFields columns (bytes.drop column.type.width) = .ok others ∧
        fields = field :: others := by
  unfold decodeFields at read
  split at read
  · cases read
  · cases first : column.type.decode bytes with
    | error fault =>
        rw [first] at read
        cases read
    | ok field =>
        cases later : decodeFields columns (bytes.drop column.type.width) with
        | error fault =>
            rw [first, later] at read
            cases read
        | ok others =>
            rw [first, later] at read
            cases read
            exact ⟨field, others, rfl, rfl, rfl⟩

theorem fields_of_decodeFields {columns : List Column} {bytes : List UInt8} {fields : List Field}
    (read : decodeFields columns bytes = .ok fields) :
    fields.map Field.type = columns.map Column.type ∧ fields.map Field.stored = fields := by
  induction columns generalizing bytes fields with
  | nil =>
      cases read
      exact ⟨rfl, rfl⟩
  | cons column rest ih =>
      obtain ⟨field, others, first, later, rfl⟩ := exists_of_decodeFields_cons read
      obtain ⟨type, same⟩ := Field.stored_of_decode first
      obtain ⟨types, sames⟩ := ih later
      rw [List.map_cons, List.map_cons, List.map_cons, type, types, same, sames]
      exact ⟨rfl, rfl⟩

theorem decoded {schema : Schema} {bytes : List UInt8} {row : Row}
    (read : decode schema bytes = .ok row) :
    row.schema = schema ∧ row.Typed ∧ row.cut = row := by
  unfold decode at read
  cases found : decodeFields schema.columns bytes with
  | error fault =>
      rw [found] at read
      cases read
  | ok fields =>
      rw [found] at read
      cases read
      obtain ⟨types, sames⟩ := fields_of_decodeFields found
      refine ⟨rfl, types, ?_⟩
      unfold cut
      rw [sames]

end Row

end RowStore
