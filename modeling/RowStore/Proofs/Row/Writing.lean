import Mathlib.Data.List.Forall2
import RowStore.Proofs.Page.Indexing
import RowStore.Proofs.Text.Boundaries

/-!
Written rows: a writer that grows its output by the width of a field and then puts each piece where
it belongs, and has no answer where a piece would not fit, and calls that replace fields of a row,
of which some are turned down. What is written behind an output is read back.
-/

set_option autoImplicit false

namespace RowStore

def overwrite? (bytes : List UInt8) (start : Nat) (piece : List UInt8) : Option (List UInt8) :=
  if start + piece.length ≤ bytes.length then
    some (bytes.take start ++ piece ++ bytes.drop (start + piece.length))
  else none

theorem overwrite?_append {front room piece : List UInt8} {start : Nat}
    (here : start = front.length) (fits : piece.length ≤ room.length) :
    overwrite? (front ++ room) start piece = some (front ++ piece ++ room.drop piece.length) := by
  subst here
  unfold overwrite?
  rw [if_pos (by rw [List.length_append]; omega), List.take_left, List.drop_append,
    List.drop_eq_nil_of_le (Nat.le_add_right _ _), Nat.add_sub_cancel_left, List.nil_append]

theorem foldlM_append {Item : Type} {write : List UInt8 → Item → Option (List UInt8)}
    {encode : Item → List UInt8}
    (each : ∀ out item, write out item = some (out ++ encode item)) (items : List Item)
    (out : List UInt8) : items.foldlM write out = some (out ++ items.flatMap encode) := by
  induction items generalizing out with
  | nil => simp
  | cons item rest ih =>
      rw [List.foldlM_cons, each, Option.bind_eq_bind, Option.bind_some, ih, List.flatMap_cons,
        List.append_assoc]

/-! ### Writing -/

namespace Field

/-- Writes a field behind the output. A text is cut at the last character boundary that the room for
its content reaches. -/
def writeTo? (field : Field) (out : List UInt8) : Option (List UInt8) :=
  let grown := out ++ List.replicate field.type.width 0
  match field with
  | .int value => overwrite? grown out.length (BigEndian.encode value.toUInt32)
  | .string text => do
      let bytes := Utf8.encode text
      let stop := Utf8.lastBoundary bytes (min bytes.length FieldType.contentRoom)
      let counted ← overwrite? grown out.length (BigEndian.encode (UInt32.ofNat stop))
      let piece ← slice? bytes 0 stop
      overwrite? counted (out.length + 4) piece

theorem writeTo?_eq (field : Field) (out : List UInt8) :
    field.writeTo? out = some (out ++ field.encode) := by
  cases field with
  | int value =>
      unfold writeTo?
      dsimp only
      rw [overwrite?_append rfl (by simp [BigEndian.length_encode, type, FieldType.width])]
      simp [encode, BigEndian.length_encode, type, FieldType.width]
  | string text =>
      have room := Utf8.length_encode_clip_le FieldType.contentRoom text
      have reaches : Utf8.lastBoundary (Utf8.encode text)
          (min (Utf8.encode text).length FieldType.contentRoom) ≤ (Utf8.encode text).length :=
        Nat.le_trans (Utf8.lastBoundary_le _ _) (Nat.min_le_left _ _)
      have piece := slice?_front reaches
      -- The bytes in front are rewritten first: afterwards where they stop is only a length.
      rw [Utf8.take_lastBoundary] at piece
      rw [Utf8.lastBoundary_encode] at piece
      unfold writeTo?
      dsimp only
      rw [Utf8.lastBoundary_encode, overwrite?_append rfl
        (by simp [BigEndian.length_encode, type, FieldType.width]), Option.bind_eq_bind,
        Option.bind_some, piece, Option.bind_some, overwrite?_append]
      · simp [encode, content, type, FieldType.width, BigEndian.length_encode]
      · rw [List.length_append, BigEndian.length_encode]
      · simpa [type, FieldType.width, BigEndian.length_encode] using room

end Field

namespace Row

def writeTo? (row : Row) (out : List UInt8) : Option (List UInt8) :=
  row.fields.foldlM (fun written field => field.writeTo? written) out

theorem writeTo?_eq (row : Row) (out : List UInt8) :
    row.writeTo? out = some (out ++ row.encode) :=
  foldlM_append (fun written field => field.writeTo?_eq written) row.fields out

/-! ### Replacing -/

/-- Puts a field in place of the one at the index, which has to be one of the row's. -/
def replace? (row : Row) (index : Nat) (field : Field) : Option (Except Fault Row) :=
  if row.schema.type? index = some field.type then
    if index < row.fields.length then
      some (.ok { row with fields := row.fields.set index field })
    else none
  else some (.error (.schema (.cannotStore field.type index)))

/-- Replaces fields one after the other. A call that is turned down leaves the row as it is. -/
def replaceEach? : Row → List (Nat × Field) → Option Row
  | row, [] => some row
  | row, (index, field) :: rest => do
      match ← row.replace? index field with
      | .ok next => next.replaceEach? rest
      | .error _ => row.replaceEach? rest

def replaceEach (row : Row) (changes : List (Nat × Field)) : Row :=
  changes.foldl (fun row change => (row.replace change.1 change.2).toOption.getD row) row

theorem replace?_eq {row : Row} (typed : row.Typed) (index : Nat) (field : Field) :
    row.replace? index field = some (row.replace index field) := by
  unfold replace? replace
  by_cases declared : row.schema.type? index = some field.type
  · have inside : index < row.fields.length := by
      have sameLength := congrArg List.length typed
      rw [List.length_map, List.length_map] at sameLength
      obtain ⟨column, found, _⟩ := Option.map_eq_some_iff.mp declared
      rw [sameLength]
      exact (List.getElem?_eq_some_iff.mp found).1
    rw [if_pos declared, if_pos declared, if_pos inside]
  · rw [if_neg declared, if_neg declared]

theorem schema_of_replace {row replaced : Row} {index : Nat} {field : Field}
    (replaces : row.replace index field = .ok replaced) : replaced.schema = row.schema := by
  unfold replace at replaces
  split at replaces
  · cases replaces
    rfl
  · cases replaces

/-- No call reaches beyond the fields of the row, which keeps its schema and the types of it. -/
theorem replaceEach?_eq {row : Row} (typed : row.Typed) (changes : List (Nat × Field)) :
    row.replaceEach? changes = some (row.replaceEach changes) ∧
      (row.replaceEach changes).Typed ∧ (row.replaceEach changes).schema = row.schema := by
  induction changes generalizing row with
  | nil => exact ⟨rfl, typed, rfl⟩
  | cons change rest ih =>
      obtain ⟨index, field⟩ := change
      simp only [replaceEach?, replace?_eq typed, replaceEach, List.foldl_cons]
      cases replaces : row.replace index field with
      | error fault => exact ih typed
      | ok next =>
          obtain ⟨answers, kept, schema⟩ := ih (typed.replace replaces)
          exact ⟨answers, kept, schema.trans (schema_of_replace replaces)⟩

/-! ### Reading back -/

/-- A row that was built, whatever fields of it were to be replaced since, never has one replaced
beyond its end, and has the types of its schema. Its encoding has as many bytes as its schema is
wide, and this is what the writer puts behind any output, which it leaves as it is. From these bytes,
whatever follows them, the row is read back: with no record, each integer as it is, and of each text
as many leading characters as 128 bytes take, so that it is the same if its texts are no longer. -/
theorem written_rows_read_back {schema : Schema} {fields : List Field} {row : Row}
    (built : ofFields schema fields = .ok row) (changes : List (Nat × Field)) :
    let changed := row.replaceEach changes
    row.replaceEach? changes = some changed ∧ changed.schema = schema ∧ changed.Typed ∧
      changed.encode.length = schema.width ∧
      ∀ out rest : List UInt8, ∃ again, changed.writeTo? out = some (out ++ changed.encode) ∧
        decode schema (changed.encode ++ rest) = .ok again ∧ again.schema = schema ∧
        again.record = none ∧ List.Forall₂ Field.ReadsBack changed.fields again.fields ∧
        ((∀ text, .string text ∈ changed.fields → (Utf8.encode text).length ≤ 128) →
          again.fields = changed.fields) := by
  intro changed
  have sameSchema : row.schema = schema := by
    unfold ofFields at built
    split at built
    · split at built
      · cases built
      · cases built
        rfl
    · cases built
  obtain ⟨answers, typed, kept⟩ := replaceEach?_eq (typed_of_ofFields built) changes
  have declared := kept.trans sameSchema
  have width := length_encode typed
  rw [declared] at width
  refine ⟨answers, declared, typed, width, ?_⟩
  intro out rest
  have readBack := decode_encode typed rest
  rw [declared] at readBack
  refine ⟨_, changed.writeTo?_eq out, readBack, rfl, rfl, ?_, ?_⟩
  · dsimp only
    rw [List.forall₂_map_right_iff, List.forall₂_same]
    exact fun field _ => field.readsBack_stored
  · intro short
    have whole : ∀ field ∈ changed.fields, field.stored = field := by
      intro field member
      cases field with
      | int value => rfl
      | string text => exact congrArg Field.string (Utf8.clip_of_length_le (short text member))
    exact (List.map_congr_left whole).trans (List.map_id _)

/-- A text of 129 bytes ends in a character of two, of which one would fit; one call is turned down
for its type, and one for its index. -/
theorem written_rows_read_back_split_character :
    let schema : Schema := ⟨[⟨.string, none⟩, ⟨.int, none⟩]⟩
    let long : Field := .string (String.ofList (List.replicate 127 'a' ++ ['é']))
    let row : Row := ⟨schema, [.string "b", .int 0], none⟩
    let changes : List (Nat × Field) := [(0, long), (1, .string "c"), (2, .int 7), (1, .int (-1))]
    let changed := row.replaceEach changes
    ofFields schema [.string "b", .int 0] = .ok row ∧ changed.fields = [long, .int (-1)] ∧
      changed.encode.length = 136 ∧
      ∃ again, changed.writeTo? [9] = some ([9] ++ changed.encode) ∧
        decode schema (changed.encode ++ [5, 5]) = .ok again ∧
        List.Forall₂ Field.ReadsBack [long, .int (-1)] again.fields := by
  intro schema long row changes changed
  have built : ofFields schema [.string "b", .int 0] = .ok row := by rfl
  have fields : changed.fields = [long, .int (-1)] := by decide +kernel
  obtain ⟨_, _, _, width, written⟩ := written_rows_read_back built changes
  obtain ⟨again, writes, reads, _, _, same, _⟩ := written [9] [5, 5]
  rw [fields] at same
  exact ⟨built, fields, width, again, writes, reads, same⟩

end Row

end RowStore
