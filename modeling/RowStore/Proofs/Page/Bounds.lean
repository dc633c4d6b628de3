import Mathlib.Data.List.Find
import RowStore.Proofs.Page.Editing
import RowStore.Proofs.Row.Writing

/-!
Page bounds: calls on a page that reach for its bits and its slots by index, and have no answer where
the page does not reach so far, and a writer that grows its output slot by slot and only then brings
it to the page size. A page has as many slots as fit it, so that every call has an answer and nothing
that was written is cut off.
-/

set_option autoImplicit false

namespace RowStore

def resize (bytes : List UInt8) (length : Nat) : List UInt8 :=
  bytes.take length ++ List.replicate (length - bytes.length) 0

theorem resize_of_le {bytes : List UInt8} {length : Nat} (short : bytes.length ≤ length) :
    resize bytes length = bytes ++ List.replicate (length - bytes.length) 0 := by
  unfold resize
  rw [List.take_of_length_le short]

namespace Page

/-! ### Calls by index -/

/-- Looks up the bit of a slot, unless the page does not have the slot. -/
def isUsed? (page : Page) (slot : Nat) : Option Bool :=
  if slot < page.slotCount then do
    let byte ← page.header[slot / 8]?
    some (byte.toBitVec.getLsbD (slot % 8))
  else some false

def setBit? (page : Page) (slot : Nat) (used : Bool) : Option Page := do
  let byte ← page.header[slot / 8]?
  let changed := if used then byte ||| Bitmap.mask slot else byte &&& ~~~Bitmap.mask slot
  some { page with header := page.header.set (slot / 8) changed }

def setContent? (page : Page) (slot : Nat) (content : Option Row) : Option Page :=
  if slot < page.slots.length then some { page with slots := page.slots.set slot content }
  else none

def assign? (page : Page) (slot : Nat) (content : Option Row) : Option Page := do
  let marked ← page.setBit? slot content.isSome
  marked.setContent? slot content

def findVacant? (page : Page) : Option (Option Nat) :=
  (List.range page.slotCount).findM? (fun slot => do return !(← page.isUsed? slot))

def insert? (page : Page) (row : Row) : Option (Except Fault (Page × Row)) :=
  if row.schema = page.schema then do
    match ← page.findVacant? with
    | none => some (.error (.pageFull page.id))
    | some slot => do
        let stored := row.storedAt ⟨page.id, slot⟩
        let next ← page.assign? slot (some stored)
        some (.ok (next, stored))
  else some (.error (.schema .pageSchema))

def deleteSlot? (page : Page) (slot : Nat) : Option (Except Fault Page) :=
  if slot < page.slotCount then do
    if ← page.isUsed? slot then (page.assign? slot none).map .ok
    else some (.error (.slotEmpty page.id slot))
  else some (.error (.invalidSlot slot page.slotCount))

def delete? (page : Page) (row : Row) : Option (Except Fault Page) :=
  match row.record with
  | none => some (.error .missingRecord)
  | some record =>
      if record.page = page.id then page.deleteSlot? record.slot
      else some (.error (.foreignRow record page.id.table))

/-! ### Writing -/

/-- What is stored of a page in front of the zeros: the header, and the slots side by side. -/
def body (page : Page) : List UInt8 :=
  page.header ++ page.slots.flatMap (encodeSlot page.schema.width)

def writeSlot? (rowWidth : Nat) (out : List UInt8) : Option Row → Option (List UInt8)
  | some row => row.writeTo? out
  | none => some (resize out (out.length + rowWidth))

def writeSlots? (page : Page) : Option (List UInt8) :=
  page.slots.foldlM (writeSlot? page.schema.width) page.header

def write? (page : Page) : Option (List UInt8) := do
  let written ← page.writeSlots?
  some (resize written page.size)

theorem writeSlot?_eq (rowWidth : Nat) (out : List UInt8) (content : Option Row) :
    writeSlot? rowWidth out content = some (out ++ encodeSlot rowWidth content) := by
  cases content with
  | some row => exact row.writeTo?_eq out
  | none =>
      unfold writeSlot? encodeSlot
      dsimp only
      rw [resize_of_le (Nat.le_add_right _ _), Nat.add_sub_cancel_left]

theorem writeSlots?_eq (page : Page) : page.writeSlots? = some page.body :=
  foldlM_append (writeSlot?_eq page.schema.width) page.slots page.header

/-! ### Answers -/

section

variable {page : Page}

theorem setBit?_eq {slot : Nat} (byte : slot / 8 < page.header.length) (used : Bool) :
    page.setBit? slot used =
      some { page with header := Bitmap.assign page.header slot used } := by
  unfold setBit? Bitmap.assign
  rw [List.getElem?_eq_getElem byte, List.modify_eq_set_getElem?, List.getElem?_eq_getElem byte]
  rfl

theorem WellFormed.isUsed?_eq (wellFormed : page.WellFormed) (slot : Nat) :
    page.isUsed? slot = some (page.isUsed slot) := by
  unfold isUsed? Page.isUsed Bitmap.isSet
  by_cases inside : slot < page.slotCount
  · rw [if_pos inside, List.getElem?_eq_getElem (wellFormed.byte_lt inside), decide_eq_true inside]
    rfl
  · rw [if_neg inside, decide_eq_false inside, Bool.false_and]

theorem WellFormed.findVacant?_eq (wellFormed : page.WellFormed) :
    page.findVacant? = some page.firstVacant? := by
  have looks : (fun slot => do return !(← page.isUsed? slot)) =
      (fun slot => (pure (!page.isUsed slot) : Option Bool)) := by
    funext slot
    rw [wellFormed.isUsed?_eq]
    rfl
  -- Only slots of the page are looked at, so that for each of them the bit alone decides.
  have same : (List.range page.slotCount).find? (fun slot => !page.isUsed slot) =
      page.firstVacant? := by
    unfold Page.firstVacant?
    apply List.find?_congr
    intro slot member
    unfold Page.isUsed
    rw [decide_eq_true (List.mem_range.mp member), Bool.true_and]
  unfold findVacant?
  rw [looks, List.findM?_pure, same]
  rfl

theorem WellFormed.assign?_eq (wellFormed : page.WellFormed) {slot : Nat}
    (inside : slot < page.slots.length) (content : Option Row) :
    page.assign? slot content = some (page.assign slot content) := by
  unfold assign?
  rw [setBit?_eq (wellFormed.byte_lt inside), Option.bind_eq_bind, Option.bind_some]
  exact if_pos inside

theorem WellFormed.insert?_eq (wellFormed : page.WellFormed) (row : Row) :
    page.insert? row = some (page.insert row) := by
  unfold insert? Page.insert
  rw [wellFormed.findVacant?_eq]
  by_cases same : row.schema = page.schema
  · rw [if_pos same, if_pos same, Option.bind_eq_bind, Option.bind_some]
    cases vacant : page.firstVacant? with
    | none => rfl
    | some slot =>
        dsimp only
        rw [wellFormed.assign?_eq (wellFormed.firstVacant? vacant).1]
        rfl
  · rw [if_neg same, if_neg same]

theorem WellFormed.deleteSlot?_eq (wellFormed : page.WellFormed) (slot : Nat) :
    page.deleteSlot? slot = some (page.deleteSlot slot) := by
  unfold deleteSlot? Page.deleteSlot
  by_cases inside : slot < page.slotCount
  · rw [if_pos inside, if_pos inside, wellFormed.isUsed?_eq, Option.bind_eq_bind, Option.bind_some,
      wellFormed.assign?_eq inside]
    split <;> rfl
  · rw [if_neg inside, if_neg inside]

theorem WellFormed.delete?_eq (wellFormed : page.WellFormed) (row : Row) :
    page.delete? row = some (page.delete row) := by
  unfold delete? Page.delete
  cases row.record with
  | none => rfl
  | some record =>
      dsimp only
      rw [wellFormed.deleteSlot?_eq]
      split <;> rfl

theorem WellFormed.length_body (wellFormed : page.WellFormed) :
    page.body.length = page.header.length + page.slots.length * page.schema.width := by
  unfold body
  rw [List.length_append, wellFormed.length_slots]

theorem WellFormed.length_body_eq (wellFormed : page.WellFormed) :
    page.body.length = Geometry.headerLength (Geometry.slotCount page.size page.schema.width) +
      Geometry.slotCount page.size page.schema.width * page.schema.width := by
  rw [wellFormed.length_body, wellFormed.header, wellFormed.slots]

theorem WellFormed.length_body_le (wellFormed : page.WellFormed) :
    page.body.length ≤ page.size := by
  rw [wellFormed.length_body_eq]
  exact Geometry.header_add_slots_le page.size page.schema.width

theorem WellFormed.encode_eq_body (wellFormed : page.WellFormed) :
    page.encode = page.body ++ List.replicate (page.size - page.body.length) 0 := by
  rw [wellFormed.encode_eq.1, ← wellFormed.length_body, ← List.append_assoc]
  rfl

theorem WellFormed.write?_eq (wellFormed : page.WellFormed) :
    page.write? = some page.encode := by
  unfold write?
  rw [writeSlots?_eq, Option.bind_eq_bind, Option.bind_some,
    resize_of_le wellFormed.length_body_le, wellFormed.encode_eq_body]

/-! ### Pages in their bounds -/

/-- The page has this many slots, no call on it reaches beyond its bits and slots, and its image is
what was written of them, with nothing cut off, and zeros behind it. -/
structure Bounded (page : Page) (slots : Nat) : Prop where
  slotCount : page.slotCount = slots
  looks : ∀ slot, page.isUsed? slot = some (page.isUsed slot)
  sets : ∀ slot, slot < slots → ∀ used, page.setBit? slot used =
    some { page with header := Bitmap.assign page.header slot used }
  inserts : ∀ row, page.insert? row = some (page.insert row)
  deletes : ∀ row, page.delete? row = some (page.delete row)
  empties : ∀ slot, page.deleteSlot? slot = some (page.deleteSlot slot)
  written : page.writeSlots? = some page.body
  length : page.body.length = Geometry.headerLength slots + slots * page.schema.width
  fits : page.body.length ≤ page.size
  image : page.write? = some page.encode
  padded : page.encode = page.body ++ List.replicate (page.size - page.body.length) 0

theorem WellFormed.bounded (wellFormed : page.WellFormed) :
    page.Bounded (Geometry.slotCount page.size page.schema.width) where
  slotCount := wellFormed.slots
  looks := wellFormed.isUsed?_eq
  sets := fun _ inside => setBit?_eq (wellFormed.byte_lt (wellFormed.slots ▸ inside))
  inserts := wellFormed.insert?_eq
  deletes := wellFormed.delete?_eq
  empties := wellFormed.deleteSlot?_eq
  written := page.writeSlots?_eq
  length := wellFormed.length_body_eq
  fits := wellFormed.length_body_le
  image := wellFormed.write?_eq
  padded := wellFormed.encode_eq_body

end

/-- The slots of a page and their header fit it, and one more slot would not. So reading an image
never leaves it, and whatever calls have been made on a page that was read, none reaches beyond its
bits and slots, and writing it cuts nothing off and only fills it up with zeros. -/
theorem slots_fit_their_page (pageSize rowWidth : Nat) (id : PageId) (schema : Schema)
    (image : List UInt8) :
    let slots := Geometry.slotCount pageSize rowWidth
    (Geometry.headerLength slots + slots * rowWidth ≤ pageSize ∧
      pageSize < Geometry.headerLength (slots + 1) + (slots + 1) * rowWidth) ∧
    read? id schema image = some (decode id schema image) ∧
    ∀ page, decode id schema image = .ok page →
      ∀ edits : List PageEdit, (∀ edit ∈ edits, edit.Typed) →
        (page.editEach edits).size = image.length ∧ (page.editEach edits).schema = schema ∧
          (page.editEach edits).Bounded (Geometry.slotCount image.length schema.width) := by
  intro slots
  have fits := Geometry.header_add_slots_le pageSize rowWidth
  have more := mt Geometry.header_add_slots_le_iff.mp (Nat.not_succ_le_self slots)
  refine ⟨⟨fits, Nat.not_le.mp more⟩, read?_eq id schema image, ?_⟩
  intro page read edits typed
  obtain ⟨wellFormed, _, sameSchema, sameSize, _⟩ := wellFormed_of_decode read
  obtain ⟨kept, succeeds⟩ := wellFormed.editEach typed
  have size := succeeds.size.trans sameSize
  have schema := succeeds.schema.trans sameSchema
  have bounded := kept.bounded
  rw [size, schema] at bounded
  exact ⟨size, schema, bounded⟩

/-- Sixteen slots fill their page to the last byte, and one more would need a third byte of header.
The row of the last slot, whose bit is the last of the header, ends with the page. -/
theorem slots_fit_their_page_last_byte :
    let id : PageId := ⟨⟨0⟩, 3⟩
    let schema : Schema := ⟨[⟨.int, none⟩]⟩
    let image : List UInt8 := [0, 0x80] ++ List.replicate 60 0 ++ [0, 0, 0, 7]
    let last : Row := ⟨schema, [.int 7], some ⟨id, 15⟩⟩
    let page : Page := ⟨id, schema, 66, [0, 0x80], List.replicate 15 none ++ [some last], none⟩
    let edits : List PageEdit := [.delete last, .deleteSlot 16, .insert last, .mark (some ⟨7⟩)]
    decode id schema image = .ok page ∧ (∀ edit ∈ edits, edit.Typed) ∧
      Geometry.headerLength 16 + 16 * schema.width = 66 ∧
        66 < Geometry.headerLength 17 + 17 * schema.width ∧
          (page.editEach edits).Bounded 16 := by
  intro id schema image last page edits
  have read : decode id schema image = .ok page := by decide +kernel
  have typed : ∀ edit ∈ edits, edit.Typed := by decide +kernel
  have length : image.length = 66 := by decide
  have filled : Geometry.slotCount 66 schema.width = 16 := by decide
  obtain ⟨⟨_, more⟩, _, after⟩ := slots_fit_their_page 66 schema.width id schema image
  obtain ⟨_, _, bounded⟩ := after page read edits typed
  rw [filled] at more
  rw [length, filled] at bounded
  exact ⟨read, typed, rfl, more, bounded⟩

end Page

end RowStore
