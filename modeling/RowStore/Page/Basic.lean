import RowStore.Page.Bitmap
import RowStore.Row

/-!
Pages: a fixed number of slots, each empty or with one row, under a header with one bit for each
slot. A page remembers the transaction that last changed it until it is written back.
-/

set_option autoImplicit false

namespace RowStore

structure Page where
  id : PageId
  schema : Schema
  /-- The length of the stored form. -/
  size : Nat
  header : List UInt8
  slots : List (Option Row)
  /-- The transaction whose changes the page holds; a clean page has none. -/
  owner : Option TransactionId
  deriving DecidableEq, Repr

namespace Page

/-! ### Slots -/

def slotCount (page : Page) : Nat :=
  page.slots.length

def isUsed (page : Page) (slot : Nat) : Bool :=
  decide (slot < page.slotCount) && Bitmap.isSet page.header slot

def firstVacant? (page : Page) : Option Nat :=
  (List.range page.slotCount).find? (fun slot => !Bitmap.isSet page.header slot)

def isFull (page : Page) : Bool :=
  page.firstVacant?.isNone

def vacantCount (page : Page) : Nat :=
  (List.range page.slotCount).countP (fun slot => !Bitmap.isSet page.header slot)

def row? (page : Page) (slot : Nat) : Option Row :=
  page.slots[slot]?.join

def rows (page : Page) : List Row :=
  page.slots.filterMap (fun content => content)

def isDirty (page : Page) : Bool :=
  page.owner.isSome

def mark (page : Page) (owner : Option TransactionId) : Page :=
  { page with owner := owner }

def assign (page : Page) (slot : Nat) (content : Option Row) : Page :=
  { page with
    header := Bitmap.assign page.header slot content.isSome
    slots := page.slots.set slot content }

/-! ### Rows in and out -/

/-- Stores a row in the lowest vacant slot. The answer is the page and the row as stored. -/
def insert (page : Page) (row : Row) : Except Fault (Page × Row) :=
  if row.schema = page.schema then
    match page.firstVacant? with
    | none => .error (.pageFull page.id)
    | some slot =>
        let stored := row.storedAt ⟨page.id, slot⟩
        .ok (page.assign slot (some stored), stored)
  else .error (.schema .pageSchema)

/-- Stores up to `count` copies of a row. The answer has the number stored and the fault that came
before the last copy, if one did. -/
def insertCopies (page : Page) (row : Row) : Nat → Page × Nat × Option Fault
  | 0 => (page, 0, none)
  | count + 1 =>
      match page.insert row with
      | .error fault => (page, 0, some fault)
      | .ok (next, _) =>
          let (filled, stored, ending) := next.insertCopies row count
          (filled, stored + 1, ending)

def deleteSlot (page : Page) (slot : Nat) : Except Fault Page :=
  if slot < page.slotCount then
    if page.isUsed slot then .ok (page.assign slot none)
    else .error (.slotEmpty page.id slot)
  else .error (.invalidSlot slot page.slotCount)

def delete (page : Page) (row : Row) : Except Fault Page :=
  match row.record with
  | none => .error .missingRecord
  | some record =>
      if record.page = page.id then page.deleteSlot record.slot
      else .error (.foreignRow record page.id.table)

end Page

end RowStore
