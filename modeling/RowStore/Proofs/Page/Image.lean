import RowStore.Page.Image
import RowStore.Proofs.Page.Basic

/-!
Page images: a well-formed page fits its image, and what is read back from it is the page with its
rows cut. What can be read at all is a well-formed page.
-/

set_option autoImplicit false

namespace RowStore

namespace Geometry

/-- The slots that fit a page behind their header are those that it has room for, and no more: the
header is rounded up to whole bytes, and the number of slots down. -/
theorem header_add_slots_le_iff {pageSize rowWidth slots : Nat} :
    headerLength slots + slots * rowWidth ≤ pageSize ↔ slots ≤ slotCount pageSize rowWidth := by
  have bits : slots * (rowWidth * 8 + 1) = slots * rowWidth * 8 + slots := by
    rw [Nat.mul_add, Nat.mul_assoc, Nat.mul_one]
  unfold slotCount headerLength
  rw [Nat.le_div_iff_mul_le (Nat.succ_pos _), bits]
  -- Counted in bits, what the rows leave of the page is whole bytes, so the header may be rounded up.
  omega

/-- The header of one slot more would take a byte more. -/
example : slotCount 4096 8 = 504 ∧ headerLength 504 = 63 ∧ headerLength 505 = 64 := by decide

theorem header_add_slots_le (pageSize rowWidth : Nat) :
    headerLength (slotCount pageSize rowWidth) + slotCount pageSize rowWidth * rowWidth ≤
      pageSize :=
  header_add_slots_le_iff.mpr (Nat.le_refl _)

end Geometry

namespace Page

/-- The page that is read back after this one was written. -/
def cut (page : Page) : Page :=
  { page with
    slots := page.slots.map (Option.map Row.cut)
    owner := none }

theorem row?_cut (page : Page) (slot : Nat) :
    page.cut.row? slot = (page.row? slot).map Row.cut := by
  unfold row? cut
  rw [List.getElem?_map]
  cases page.slots[slot]? with
  | none => rfl
  | some content =>
      cases content <;> rfl

/-! ### Slots -/

def decodeSlot (id : PageId) (schema : Schema) (header : List UInt8) (slot : Nat)
    (bytes : List UInt8) : Except Fault (Option Row) :=
  if Bitmap.isSet header slot then
    (Row.decode schema (bytes.take schema.width)).map (fun row => some (row.storedAt ⟨id, slot⟩))
  else .ok none

theorem decodeSlots_succ (id : PageId) (schema : Schema) (header : List UInt8) (slot count : Nat)
    (bytes : List UInt8) :
    decodeSlots id schema header slot (count + 1) bytes =
      (decodeSlot id schema header slot bytes).bind (fun content =>
        (decodeSlots id schema header (slot + 1) count (bytes.drop schema.width)).map
          (content :: ·)) := by
  rw [decodeSlots]
  unfold decodeSlot
  cases decodeSlots id schema header (slot + 1) count (bytes.drop schema.width) <;> split
  case error.isFalse | ok.isFalse => rfl
  all_goals cases Row.decode schema (bytes.take schema.width) <;> rfl

private structure Fits (id : PageId) (schema : Schema) (header : List UInt8) (first : Nat)
    (contents : List (Option Row)) : Prop where
  used : ∀ slot, slot < contents.length →
    Bitmap.isSet header (first + slot) = contents[slot]?.join.isSome
  rows : ∀ (slot : Nat) (row : Row), contents[slot]?.join = some row →
    row.schema = schema ∧ row.Typed ∧ row.record = some ⟨id, first + slot⟩

private theorem Fits.tail {id : PageId} {schema : Schema} {header : List UInt8} {first : Nat}
    {content : Option Row} {contents : List (Option Row)}
    (fits : Fits id schema header first (content :: contents)) :
    Fits id schema header (first + 1) contents := by
  constructor
  · intro slot inside
    rw [Nat.add_assoc, Nat.add_comm 1 slot]
    exact fits.used (slot + 1) (Nat.succ_lt_succ inside)
  · intro slot row found
    rw [Nat.add_assoc, Nat.add_comm 1 slot]
    exact fits.rows (slot + 1) row found

private theorem Fits.cons {id : PageId} {schema : Schema} {header : List UInt8} {first : Nat}
    {content : Option Row} {contents : List (Option Row)}
    (used : Bitmap.isSet header first = content.isSome)
    (row : ∀ row, content = some row →
      row.schema = schema ∧ row.Typed ∧ row.record = some ⟨id, first⟩)
    (fits : Fits id schema header (first + 1) contents) :
    Fits id schema header first (content :: contents) := by
  constructor
  · intro slot inside
    cases slot with
    | zero => exact used
    | succ slot =>
        rw [← Nat.add_assoc, Nat.add_right_comm]
        exact fits.used slot (Nat.lt_of_succ_lt_succ inside)
  · intro slot found foundAt
    cases slot with
    | zero => exact row found foundAt
    | succ slot =>
        rw [← Nat.add_assoc, Nat.add_right_comm]
        exact fits.rows slot found foundAt

private theorem length_encodeSlot {schema : Schema} {content : Option Row}
    (typed : ∀ row, content = some row → row.schema = schema ∧ row.Typed) :
    (encodeSlot schema.width content).length = schema.width := by
  cases content with
  | none => exact List.length_replicate
  | some row =>
      obtain ⟨sameSchema, rowTyped⟩ := typed row rfl
      rw [← sameSchema]
      exact Row.length_encode rowTyped

private theorem decodeSlots_encodeSlot {id : PageId} {schema : Schema} {header : List UInt8}
    {first : Nat} {contents : List (Option Row)} (fits : Fits id schema header first contents)
    (rest : List UInt8) :
    decodeSlots id schema header first contents.length
        (contents.flatMap (encodeSlot schema.width) ++ rest) =
      .ok (contents.map (Option.map Row.cut)) := by
  induction contents generalizing first with
  | nil => rfl
  | cons content contents ih =>
      have used : Bitmap.isSet header first = content.isSome :=
        fits.used 0 (Nat.zero_lt_succ _)
      have row (row : Row) (same : content = some row) :
          row.schema = schema ∧ row.Typed ∧ row.record = some ⟨id, first⟩ := fits.rows 0 row same
      have width := length_encodeSlot (fun found same =>
        ⟨(row found same).1, (row found same).2.1⟩)
      have front : ((content :: contents).flatMap (encodeSlot schema.width) ++ rest).take
          schema.width = encodeSlot schema.width content := by
        rw [List.flatMap_cons, List.append_assoc, List.take_left' width]
      have behind : ((content :: contents).flatMap (encodeSlot schema.width) ++ rest).drop
          schema.width = contents.flatMap (encodeSlot schema.width) ++ rest := by
        rw [List.flatMap_cons, List.append_assoc, List.drop_left' width]
      rw [List.length_cons, decodeSlots, front, behind, ih fits.tail]
      cases content with
      | none =>
          rw [used]
          rfl
      | some stored =>
          obtain ⟨sameSchema, typed, recorded⟩ := row stored rfl
          have read := Row.decode_encode typed []
          rw [List.append_nil, sameSchema] at read
          have again : Row.storedAt ⟨schema, stored.fields.map Field.stored, none⟩ ⟨id, first⟩ =
              stored.cut := by
            unfold Row.storedAt Row.cut
            rw [← recorded, ← sameSchema]
          rw [used]
          simp only [Option.isSome_some, if_true, encodeSlot, read, bind, Except.bind, pure,
            Except.pure, again, List.map_cons, Option.map_some]

private theorem fits_of_decodeSlots {id : PageId} {schema : Schema} {header : List UInt8}
    {first count : Nat} {bytes : List UInt8} {contents : List (Option Row)}
    (read : decodeSlots id schema header first count bytes = .ok contents) :
    contents.length = count ∧ Fits id schema header first contents ∧
      contents.map (Option.map Row.cut) = contents := by
  induction count generalizing first bytes contents with
  | zero =>
      cases read
      refine ⟨rfl, ⟨?_, ?_⟩, rfl⟩
      · intro slot inside
        exact absurd inside (Nat.not_lt_zero slot)
      · intro slot row found
        cases found
  | succ count ih =>
      rw [decodeSlots] at read
      cases used : Bitmap.isSet header first with
      | false =>
          cases later : decodeSlots id schema header (first + 1) count
              (bytes.drop schema.width) with
          | error fault =>
              rw [used, later] at read
              cases read
          | ok others =>
              rw [used, later] at read
              cases read
              obtain ⟨length, fits, same⟩ := ih later
              refine ⟨congrArg Nat.succ length, fits.cons used ?_, ?_⟩
              · intro row impossible
                cases impossible
              · rw [List.map_cons, same]
                rfl
      | true =>
          cases front : Row.decode schema (bytes.take schema.width) with
          | error fault =>
              rw [used, front] at read
              cases read
          | ok row =>
              cases later : decodeSlots id schema header (first + 1) count
                  (bytes.drop schema.width) with
              | error fault =>
                  rw [used, front, later] at read
                  cases read
              | ok others =>
                  rw [used, front, later] at read
                  cases read
                  obtain ⟨length, fits, same⟩ := ih later
                  obtain ⟨sameSchema, typed, whole⟩ := Row.decoded front
                  refine ⟨congrArg Nat.succ length, fits.cons used ?_, ?_⟩
                  · intro stored isStored
                    cases isStored
                    exact ⟨sameSchema, typed, rfl⟩
                  · rw [List.map_cons, same, Option.map_some, Row.cut_storedAt, whole]

/-! ### Pages -/

private theorem WellFormed.fits {page : Page} (wellFormed : page.WellFormed) :
    Fits page.id page.schema page.header 0 page.slots := by
  constructor
  · intro slot inside
    rw [Nat.zero_add]
    exact wellFormed.used slot inside
  · intro slot row found
    rw [Nat.zero_add]
    exact wellFormed.rows slot row found

private theorem WellFormed.length_of_mem {page : Page} (wellFormed : page.WellFormed)
    {content : Option Row} (member : content ∈ page.slots) :
    (encodeSlot page.schema.width content).length = page.schema.width := by
  apply length_encodeSlot
  intro row same
  obtain ⟨slot, inside, found⟩ := List.getElem_of_mem member
  have stored : page.row? slot = some row := by
    unfold row?
    rw [List.getElem?_eq_getElem inside, found, same]
    rfl
  obtain ⟨sameSchema, typed, _⟩ := wellFormed.rows slot row stored
  exact ⟨sameSchema, typed⟩

private theorem length_flatMap {contents : List (Option Row)} {rowWidth : Nat}
    (each : ∀ content ∈ contents, (encodeSlot rowWidth content).length = rowWidth) :
    (contents.flatMap (encodeSlot rowWidth)).length = contents.length * rowWidth := by
  induction contents with
  | nil => simp
  | cons content rest ih =>
      rw [List.flatMap_cons, List.length_append, each content List.mem_cons_self,
        ih (fun other member => each other (List.mem_cons_of_mem content member)),
        List.length_cons, Nat.succ_mul, Nat.add_comm]

private theorem getElem?_flatMap {contents : List (Option Row)} {rowWidth : Nat}
    (each : ∀ content ∈ contents, (encodeSlot rowWidth content).length = rowWidth) {slot : Nat}
    {content : Option Row} (found : contents[slot]? = some content) {offset : Nat}
    (inside : offset < rowWidth) :
    (contents.flatMap (encodeSlot rowWidth))[slot * rowWidth + offset]? =
      (encodeSlot rowWidth content)[offset]? := by
  induction contents generalizing slot with
  | nil => cases found
  | cons first rest ih =>
      have width := each first List.mem_cons_self
      rw [List.flatMap_cons]
      cases slot with
      | zero =>
          cases found
          rw [Nat.zero_mul, Nat.zero_add, List.getElem?_append_left (by omega)]
      | succ slot =>
          rw [Nat.succ_mul, Nat.add_right_comm, Nat.add_comm, List.getElem?_append_right (by omega),
            width, Nat.add_sub_cancel_left]
          exact ih (fun other member => each other (List.mem_cons_of_mem first member)) found

theorem WellFormed.length_slots {page : Page} (wellFormed : page.WellFormed) :
    (page.slots.flatMap (encodeSlot page.schema.width)).length =
      page.slots.length * page.schema.width :=
  length_flatMap fun _ member => wellFormed.length_of_mem member

theorem WellFormed.encode_eq {page : Page} (wellFormed : page.WellFormed) :
    page.encode = page.header ++ (page.slots.flatMap (encodeSlot page.schema.width) ++
        List.replicate
          (page.size - (page.header.length + page.slots.length * page.schema.width)) 0) ∧
      page.encode.length = page.size := by
  have length := wellFormed.length_slots
  have fits := Geometry.header_add_slots_le page.size page.schema.width
  rw [← wellFormed.slots, ← wellFormed.header] at fits
  constructor
  · unfold Page.encode
    rw [List.append_assoc, List.take_append, List.take_append, List.take_replicate,
      List.take_of_length_le (by omega), List.take_of_length_le (by omega), length]
    congr 3
    omega
  · unfold Page.encode
    rw [List.length_take, List.length_append, List.length_append, List.length_replicate]
    omega

theorem WellFormed.length_encode {page : Page} (wellFormed : page.WellFormed) :
    page.encode.length = page.size := by
  exact wellFormed.encode_eq.2

theorem WellFormed.getElem?_header {page : Page} (wellFormed : page.WellFormed) {position : Nat}
    (inside : position < page.header.length) : page.encode[position]? = page.header[position]? := by
  rw [wellFormed.encode_eq.1, List.getElem?_append_left inside]

theorem WellFormed.getElem?_slot {page : Page} (wellFormed : page.WellFormed) {slot : Nat}
    {content : Option Row} (found : page.slots[slot]? = some content) {offset : Nat}
    (inside : offset < page.schema.width) :
    page.encode[page.header.length + slot * page.schema.width + offset]? =
      (encodeSlot page.schema.width content)[offset]? := by
  have slots := getElem?_flatMap (fun _ member => wellFormed.length_of_mem member) found inside
  have within : offset < (encodeSlot page.schema.width content).length := by
    rw [wellFormed.length_of_mem (List.mem_of_getElem? found)]
    exact inside
  rw [List.getElem?_eq_getElem within] at slots
  obtain ⟨before, _⟩ := List.getElem?_eq_some_iff.mp slots
  rw [wellFormed.encode_eq.1, Nat.add_assoc, List.getElem?_append_right (Nat.le_add_right _ _),
    Nat.add_sub_cancel_left, List.getElem?_append_left before, slots,
    List.getElem?_eq_getElem within]

theorem WellFormed.getElem?_rest {page : Page} (wellFormed : page.WellFormed) {position : Nat}
    (behind : page.header.length + page.slots.length * page.schema.width ≤ position)
    (inside : position < page.size) : page.encode[position]? = some 0 := by
  have length := wellFormed.length_slots
  rw [wellFormed.encode_eq.1, List.getElem?_append_right (by omega),
    List.getElem?_append_right (by omega), List.getElem?_replicate, if_pos (by omega)]

theorem WellFormed.decode_encode {page : Page} (wellFormed : page.WellFormed) :
    Page.decode page.id page.schema page.encode = .ok page.cut := by
  obtain ⟨image, length⟩ := wellFormed.encode_eq
  have some : ¬page.slots.length = 0 := Nat.ne_of_gt wellFormed.inhabited
  unfold Page.decode
  rw [length, ← wellFormed.slots]
  dsimp only
  rw [← wellFormed.header, image, List.take_left, List.drop_left]
  simp only [some, if_false, decodeSlots_encodeSlot wellFormed.fits]
  rfl

theorem wellFormed_of_decode {id : PageId} {schema : Schema} {image : List UInt8} {page : Page}
    (read : decode id schema image = .ok page) :
    page.WellFormed ∧ page.id = id ∧ page.schema = schema ∧ page.size = image.length ∧
      page.owner = none ∧ page.cut = page := by
  unfold Page.decode at read
  dsimp only at read
  split at read
  · cases read
  · rename_i some
    cases found : decodeSlots id schema
        (image.take (Geometry.headerLength (Geometry.slotCount image.length schema.width))) 0
        (Geometry.slotCount image.length schema.width)
        (image.drop (Geometry.headerLength (Geometry.slotCount image.length schema.width))) with
    | error fault =>
        rw [found] at read
        cases read
    | ok contents =>
        rw [found] at read
        cases read
        obtain ⟨length, fits, same⟩ := fits_of_decodeSlots found
        have room := Geometry.header_add_slots_le image.length schema.width
        refine ⟨⟨length, ?_, ?_, ?_, ?_⟩, rfl, rfl, rfl, rfl, ?_⟩
        · change 0 < contents.length
          omega
        · change (image.take _).length = Geometry.headerLength contents.length
          rw [List.length_take, length]
          omega
        · intro slot inside
          have used := fits.used slot inside
          rw [Nat.zero_add] at used
          exact used
        · intro slot row found
          have row := fits.rows slot row found
          rw [Nat.zero_add] at row
          exact row
        · unfold cut
          rw [same]

private theorem isSet_replicate (length slot : Nat) :
    Bitmap.isSet (List.replicate length 0) slot = false := by
  unfold Bitmap.isSet
  rw [List.getElem?_replicate]
  split
  · rename_i byte found
    split at found
    · cases found
      simp
    · cases found
  · rfl

private theorem decodeSlots_of_clear (id : PageId) (schema : Schema) {header : List UInt8}
    (clear : ∀ slot, Bitmap.isSet header slot = false) (slot count : Nat) (bytes : List UInt8) :
    decodeSlots id schema header slot count bytes = .ok (List.replicate count none) := by
  induction count generalizing slot bytes with
  | zero => rfl
  | succ count ih =>
      unfold decodeSlots
      simp only [clear, Bool.false_eq_true, if_false, bind, Except.bind, pure, Except.pure, ih,
        List.replicate_succ]

/-- The image of a page without rows is that of a page whose slots are all vacant. -/
theorem exists_decode_emptyImage (id : PageId) {schema : Schema} {size : Nat}
    (roomy : Geometry.slotCount size schema.width ≠ 0) :
    ∃ page, decode id schema (emptyImage size) = .ok page ∧ page.firstVacant? = some 0 := by
  have length : (emptyImage size).length = size := List.length_replicate
  have clear (bytes slot : Nat) :
      Bitmap.isSet ((emptyImage size).take bytes) slot = false := by
    unfold emptyImage
    rw [List.take_replicate]
    exact isSet_replicate _ slot
  unfold decode
  rw [length]
  simp only [roomy, if_false, decodeSlots_of_clear id schema (clear _), bind, Except.bind, pure,
    Except.pure]
  refine ⟨_, rfl, ?_⟩
  unfold firstVacant? slotCount
  dsimp only
  rw [List.length_replicate]
  obtain ⟨more, count⟩ := Nat.exists_eq_succ_of_ne_zero roomy
  rw [count, List.range_succ_eq_map, List.find?_cons_of_pos]
  rw [clear]
  rfl

theorem row?_of_decode_emptyImage {id : PageId} {schema : Schema} {size : Nat} {page : Page}
    (read : decode id schema (emptyImage size) = .ok page) (slot : Nat) :
    page.row? slot = none := by
  obtain ⟨wellFormed, _⟩ := wellFormed_of_decode read
  have clear : Bitmap.isSet page.header slot = false := by
    unfold decode at read
    dsimp only at read
    split at read
    · cases read
    · cases found : decodeSlots id schema
          ((emptyImage size).take (Geometry.headerLength
            (Geometry.slotCount (emptyImage size).length schema.width))) 0
          (Geometry.slotCount (emptyImage size).length schema.width)
          ((emptyImage size).drop (Geometry.headerLength
            (Geometry.slotCount (emptyImage size).length schema.width))) with
      | error fault =>
          rw [found] at read
          cases read
      | ok contents =>
          rw [found] at read
          cases read
          unfold emptyImage
          rw [List.take_replicate]
          exact isSet_replicate _ slot
  by_contra stored
  obtain ⟨row, found⟩ := Option.ne_none_iff_exists'.mp stored
  have used := wellFormed.used slot (lt_of_row? found)
  rw [clear, found] at used
  cases used

end Page

end RowStore
