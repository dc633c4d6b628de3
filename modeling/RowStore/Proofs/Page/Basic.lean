import Mathlib.Tactic.ByContra
import RowStore.Page.Geometry
import RowStore.Page.Basic
import RowStore.Proofs.Row

/-!
Well-formed pages: as many slots as the page size has room for, a header whose bits say which of
them have a row, and in each slot a typed row that knows where it is. Storing and deleting rows
keeps a page well-formed.
-/

set_option autoImplicit false

namespace RowStore

/-! ### Bitmaps -/

namespace Bitmap

theorem length_assign (header : List UInt8) (slot : Nat) (used : Bool) :
    (assign header slot used).length = header.length := by
  unfold assign
  rw [List.length_modify]

private theorem getLsbD_mask (slot bit : Nat) :
    (mask slot).toBitVec.getLsbD bit = decide (bit = slot % 8) := by
  have below : slot % 8 < 8 := Nat.mod_lt slot (by decide)
  simp only [mask, BitVec.getLsbD_twoPow]
  by_cases same : bit = slot % 8
  · simp [same, below]
  · simp [same, Ne.symm same]

private theorem getLsbD_write (byte : UInt8) (slot bit : Nat) (used : Bool) (inside : bit < 8) :
    (if used then byte ||| mask slot else byte &&& ~~~mask slot).toBitVec.getLsbD bit =
      if bit = slot % 8 then used else byte.toBitVec.getLsbD bit := by
  have masked := getLsbD_mask slot bit
  cases used with
  | true =>
      simp only [if_true, UInt8.toBitVec_or, BitVec.getLsbD_or, masked]
      by_cases same : bit = slot % 8
      · simp [same]
      · simp [same]
  | false =>
      simp only [Bool.false_eq_true, if_false, UInt8.toBitVec_and, UInt8.toBitVec_not,
        BitVec.getLsbD_and, BitVec.getLsbD_not, masked]
      by_cases same : bit = slot % 8
      · simp [same]
      · simp [same, inside]

theorem isSet_assign {header : List UInt8} {slot : Nat} (inside : slot / 8 < header.length)
    (used : Bool) (other : Nat) :
    isSet (assign header slot used) other = if other = slot then used else isSet header other := by
  have bit : other % 8 < 8 := Nat.mod_lt other (by decide)
  unfold isSet assign
  rw [List.getElem?_modify]
  by_cases sameByte : slot / 8 = other / 8
  · rw [sameByte] at inside
    rw [List.getElem?_eq_getElem inside]
    simp only [Option.map_eq_map, Option.map_some, sameByte, if_true,
      getLsbD_write _ slot (other % 8) used bit]
    by_cases same : other = slot
    · have sameBit : other % 8 = slot % 8 := by rw [same]
      rw [if_pos same, if_pos sameBit]
    · have apart : other % 8 ≠ slot % 8 := by omega
      rw [if_neg same, if_neg apart]
  · have different : other ≠ slot := by
      rintro rfl
      exact sameByte rfl
    simp only [sameByte, if_false, Option.map_eq_map, Option.map_id', if_neg different]

end Bitmap

/-! ### Well-formed pages -/

namespace Page

structure WellFormed (page : Page) : Prop where
  slots : page.slots.length = Geometry.slotCount page.size page.schema.width
  inhabited : 0 < page.slots.length
  header : page.header.length = Geometry.headerLength page.slots.length
  used : ∀ slot, slot < page.slots.length →
    Bitmap.isSet page.header slot = (page.row? slot).isSome
  rows : ∀ slot row, page.row? slot = some row →
    row.schema = page.schema ∧ row.Typed ∧ row.record = some ⟨page.id, slot⟩

def Shows (page : Page) (contents : RecordId → Option (List Field)) : Prop :=
  ∀ slot, (page.row? slot).map Row.fields = contents ⟨page.id, slot⟩

theorem lt_of_row? {page : Page} {slot : Nat} {row : Row} (found : page.row? slot = some row) :
    slot < page.slots.length := by
  unfold row? at found
  by_contra outside
  rw [List.getElem?_eq_none (Nat.le_of_not_lt outside)] at found
  cases found

theorem row?_assign {page : Page} {slot : Nat} (inside : slot < page.slots.length)
    (content : Option Row) (other : Nat) :
    (page.assign slot content).row? other = if other = slot then content else page.row? other := by
  unfold row? assign
  rw [List.getElem?_set]
  by_cases same : slot = other
  · subst same
    rw [if_pos rfl, if_pos inside, if_pos rfl]
    rfl
  · rw [if_neg same, if_neg (Ne.symm same)]

theorem row?_mark (page : Page) (owner : Option TransactionId) (slot : Nat) :
    (page.mark owner).row? slot = page.row? slot := rfl

theorem WellFormed.byte_lt {page : Page} (wellFormed : page.WellFormed) {slot : Nat}
    (inside : slot < page.slots.length) : slot / 8 < page.header.length := by
  rw [wellFormed.header]
  unfold Geometry.headerLength
  omega

theorem WellFormed.mark {page : Page} (wellFormed : page.WellFormed)
    (owner : Option TransactionId) : (page.mark owner).WellFormed :=
  ⟨wellFormed.slots, wellFormed.inhabited, wellFormed.header, wellFormed.used, wellFormed.rows⟩

theorem WellFormed.assign {page : Page} (wellFormed : page.WellFormed) {slot : Nat}
    (inside : slot < page.slots.length) {content : Option Row}
    (fits : ∀ row, content = some row →
      row.schema = page.schema ∧ row.Typed ∧ row.record = some ⟨page.id, slot⟩) :
    (page.assign slot content).WellFormed := by
  have length : (page.assign slot content).slots.length = page.slots.length := by
    unfold Page.assign
    rw [List.length_set]
  constructor
  · rw [length]
    exact wellFormed.slots
  · rw [length]
    exact wellFormed.inhabited
  · rw [length, ← wellFormed.header]
    exact Bitmap.length_assign page.header slot content.isSome
  · intro other insideOther
    rw [length] at insideOther
    rw [row?_assign inside]
    refine (Bitmap.isSet_assign (wellFormed.byte_lt inside) content.isSome other).trans ?_
    by_cases same : other = slot
    · rw [if_pos same, if_pos same]
    · rw [if_neg same, if_neg same]
      exact wellFormed.used other insideOther
  · intro other row found
    rw [row?_assign inside] at found
    split at found
    · rename_i same
      rw [same]
      exact fits row found
    · exact wellFormed.rows other row found

/-! ### Storing and deleting -/

theorem id_of_insert {page next : Page} {row stored : Row}
    (inserts : page.insert row = .ok (next, stored)) : next.id = page.id := by
  unfold Page.insert at inserts
  split at inserts
  · split at inserts
    · cases inserts
    · cases inserts
      rfl
  · cases inserts

theorem id_of_delete {page next : Page} {row : Row} (deletes : page.delete row = .ok next) :
    next.id = page.id := by
  unfold Page.delete Page.deleteSlot at deletes
  split at deletes
  · cases deletes
  · split at deletes
    · split at deletes
      · split at deletes
        · cases deletes
          rfl
        · cases deletes
      · cases deletes
    · cases deletes

theorem WellFormed.insert {page next : Page} (wellFormed : page.WellFormed) {row stored : Row}
    (typed : row.Typed) (inserts : page.insert row = .ok (next, stored)) :
    next.WellFormed ∧ ∃ slot, page.row? slot = none ∧ slot < page.slots.length ∧
      stored = row.storedAt ⟨page.id, slot⟩ ∧ next = page.assign slot (some stored) := by
  unfold Page.insert at inserts
  split at inserts
  · rename_i sameSchema
    cases vacant : page.firstVacant? with
    | none =>
        rw [vacant] at inserts
        cases inserts
    | some slot =>
        rw [vacant] at inserts
        cases inserts
        have clear := List.find?_some vacant
        have inside : slot < page.slots.length :=
          List.mem_range.mp (List.mem_of_find?_eq_some vacant)
        have empty : page.row? slot = none := by
          rw [wellFormed.used slot inside] at clear
          simpa using clear
        refine ⟨wellFormed.assign inside ?_, slot, empty, inside, rfl, rfl⟩
        intro stored same
        cases same
        exact ⟨sameSchema, typed, rfl⟩
  · cases inserts

theorem exists_firstVacant? {page : Page} (room : page.isFull = false) :
    ∃ slot, page.firstVacant? = some slot := by
  unfold isFull at room
  exact Option.isSome_iff_exists.mp (Option.isNone_eq_false_iff.mp room)

theorem WellFormed.isSome_of_isFull {page : Page} (wellFormed : page.WellFormed)
    (full : page.isFull = true) {slot : Nat} (inside : slot < page.slots.length) :
    (page.row? slot).isSome = true := by
  unfold isFull at full
  rw [← wellFormed.used slot inside]
  simpa using List.find?_eq_none.mp (Option.isNone_iff_eq_none.mp full) slot
    (List.mem_range.mpr inside)

theorem WellFormed.firstVacant? {page : Page} (wellFormed : page.WellFormed) {slot : Nat}
    (vacant : page.firstVacant? = some slot) :
    slot < page.slots.length ∧ page.row? slot = none ∧
      ∀ lower < slot, (page.row? lower).isSome = true := by
  unfold Page.firstVacant? at vacant
  obtain ⟨clear, inside, before⟩ := List.find?_range_eq_some.mp vacant
  have inside : slot < page.slots.length := List.mem_range.mp inside
  refine ⟨inside, ?_, ?_⟩
  · rw [wellFormed.used slot inside] at clear
    simpa using clear
  · intro lower below
    rw [← wellFormed.used lower (Nat.lt_trans below inside)]
    simpa using before lower below

theorem WellFormed.deleteSlot {page next : Page} (wellFormed : page.WellFormed) {slot : Nat}
    (deletes : page.deleteSlot slot = .ok next) :
    next.WellFormed ∧ slot < page.slots.length ∧ (page.row? slot).isSome = true ∧
      next = page.assign slot none := by
  unfold Page.deleteSlot at deletes
  split at deletes
  · rename_i inside
    split at deletes
    · rename_i occupied
      cases deletes
      refine ⟨wellFormed.assign inside ?_, inside, ?_, rfl⟩
      · intro row impossible
        cases impossible
      · rw [← wellFormed.used slot inside]
        exact (Bool.and_eq_true_iff.mp occupied).2
    · cases deletes
  · cases deletes

/-- A row is deleted from the slot that it says it is in, which is not vacant, and nothing else
changes. -/
theorem WellFormed.delete {page next : Page} (wellFormed : page.WellFormed) {row : Row}
    (deletes : page.delete row = .ok next) :
    next.WellFormed ∧ ∃ slot, row.record = some ⟨page.id, slot⟩ ∧ slot < page.slots.length ∧
      (page.row? slot).isSome = true ∧ next = page.assign slot none := by
  unfold Page.delete at deletes
  split at deletes
  · cases deletes
  · rename_i record recorded
    split at deletes
    · rename_i samePage
      obtain ⟨kept, inside, occupied, same⟩ := wellFormed.deleteSlot deletes
      refine ⟨kept, record.slot, ?_, inside, occupied, same⟩
      rw [recorded, ← samePage]
    · cases deletes

end Page

end RowStore
