import RowStore.Proofs.Page.Editing

/-!
Pages as arrays: a page stays an array of optional rows whatever calls are made on it. The calls that
store and delete rows are taken step by step, too, on the page itself and on the row that is passed
along, where a call that fails halfway would leave its first half behind. None does.
-/

set_option autoImplicit false

namespace RowStore.Page

/-! ### Calls step by step -/

section

variable {Passed : Type}

/-- Steps on a page and on what is passed to the call. A fault keeps what was changed before it. -/
abbrev Steps (Passed Answer : Type) : Type :=
  EStateM Fault (Page × Passed) Answer

def setBit (slot : Nat) (used : Bool) : Steps Passed Unit :=
  modify (fun (page, passed) =>
    ({ page with header := Bitmap.assign page.header slot used }, passed))

def setContent (slot : Nat) (content : Option Row) : Steps Passed Unit :=
  modify (fun (page, passed) => ({ page with slots := page.slots.set slot content }, passed))

def stamp (record : RecordId) : Steps Row Unit :=
  modify (fun (page, row) => (page, row.storedAt record))

/-- Stores the row that is passed, which learns its record first. -/
def insertInPlace : Steps Row RecordId := do
  let (page, row) ← get
  if row.schema ≠ page.schema then throw (.schema .pageSchema)
  match page.firstVacant? with
  | none => throw (.pageFull page.id)
  | some slot =>
      stamp ⟨page.id, slot⟩
      setBit slot true
      let (_, stored) ← get
      setContent slot (some stored)
      return ⟨page.id, slot⟩

def deleteSlotInPlace (slot : Nat) : Steps Passed Unit := do
  let (page, _) ← get
  if page.slotCount ≤ slot then throw (.invalidSlot slot page.slotCount)
  if page.isUsed slot = false then throw (.slotEmpty page.id slot)
  setBit slot false
  setContent slot none

def deleteInPlace : Steps Row Unit := do
  let (page, row) ← get
  match row.record with
  | none => throw .missingRecord
  | some record =>
      if record.page ≠ page.id then throw (.foreignRow record page.id.table)
      deleteSlotInPlace record.slot

def left {Answer : Type} : EStateM.Result Fault (Page × Passed) Answer → Page × Passed
  | .ok _ after => after
  | .error _ after => after

def call (page : Page) : PageEdit → Page
  | .insert row => (left (insertInPlace.run (page, row))).1
  | .delete row => (left (deleteInPlace.run (page, row))).1
  | .deleteSlot slot => (left ((deleteSlotInPlace slot).run (page, ()))).1
  | .mark owner => page.mark owner

def callEach (page : Page) (edits : List PageEdit) : Page :=
  edits.foldl call page

/-! ### Steps come to the whole -/

theorem run_insertInPlace_of_vacant {page : Page} {row : Row} (same : row.schema = page.schema)
    {slot : Nat} (vacant : page.firstVacant? = some slot) :
    insertInPlace.run (page, row) = .ok ⟨page.id, slot⟩
      (page.assign slot (some (row.storedAt ⟨page.id, slot⟩)), row.storedAt ⟨page.id, slot⟩) := by
  simp only [insertInPlace, EStateM.run_bind, EStateM.run_get, same, vacant]
  rw [if_neg (not_not_intro rfl)]
  rfl

theorem run_insertInPlace_of_full {page : Page} {row : Row} (same : row.schema = page.schema)
    (full : page.firstVacant? = none) :
    insertInPlace.run (page, row) = .error (.pageFull page.id) (page, row) := by
  simp only [insertInPlace, EStateM.run_bind, EStateM.run_get, same, full]
  rw [if_neg (not_not_intro rfl)]
  rfl

theorem run_insertInPlace_of_ne {page : Page} {row : Row} (different : row.schema ≠ page.schema) :
    insertInPlace.run (page, row) = .error (.schema .pageSchema) (page, row) := by
  simp only [insertInPlace, EStateM.run_bind, EStateM.run_get]
  rw [if_pos different]
  rfl

/-- Storing in place answers as storing does, and a failure leaves the page and the row alone. -/
theorem run_insertInPlace (page : Page) (row : Row) :
    match page.insert row with
    | .ok (next, stored) => ∃ slot, stored.record = some ⟨page.id, slot⟩ ∧
        insertInPlace.run (page, row) = .ok ⟨page.id, slot⟩ (next, stored)
    | .error fault => insertInPlace.run (page, row) = .error fault (page, row) := by
  unfold insert
  by_cases same : row.schema = page.schema
  · rw [if_pos same]
    cases vacant : page.firstVacant? with
    | none => exact run_insertInPlace_of_full same vacant
    | some slot => exact ⟨slot, rfl, run_insertInPlace_of_vacant same vacant⟩
  · rw [if_neg same]
    exact run_insertInPlace_of_ne same

theorem run_deleteSlotInPlace (page : Page) (slot : Nat) (passed : Passed) :
    (deleteSlotInPlace slot).run (page, passed) =
      match page.deleteSlot slot with
      | .ok next => .ok () (next, passed)
      | .error fault => .error fault (page, passed) := by
  unfold deleteSlot
  by_cases inside : slot < page.slotCount
  · rw [if_pos inside]
    cases used : page.isUsed slot with
    | true =>
        simp only [deleteSlotInPlace, EStateM.run_bind, EStateM.run_get, Nat.not_le.mpr inside,
          used]
        rfl
    | false =>
        simp only [deleteSlotInPlace, EStateM.run_bind, EStateM.run_get, Nat.not_le.mpr inside,
          used]
        rfl
  · rw [if_neg inside]
    simp only [deleteSlotInPlace, EStateM.run_bind, EStateM.run_get, Nat.not_lt.mp inside]
    rfl

theorem run_deleteInPlace (page : Page) (row : Row) :
    deleteInPlace.run (page, row) =
      match page.delete row with
      | .ok next => .ok () (next, row)
      | .error fault => .error fault (page, row) := by
  unfold delete
  cases recorded : row.record with
  | none =>
      simp only [deleteInPlace, EStateM.run_bind, EStateM.run_get, recorded]
      rfl
  | some record =>
      dsimp only
      by_cases own : record.page = page.id
      · rw [if_pos own, ← run_deleteSlotInPlace]
        simp only [deleteInPlace, EStateM.run_bind, EStateM.run_get, recorded]
        rw [if_neg (not_not_intro own)]
      · rw [if_neg own]
        simp only [deleteInPlace, EStateM.run_bind, EStateM.run_get, recorded]
        rw [if_pos own]
        rfl

theorem call_eq (page : Page) (edit : PageEdit) : page.call edit = page.edit edit := by
  cases edit with
  | insert row =>
      have answers := page.run_insertInPlace row
      unfold call Page.edit
      dsimp only
      cases inserts : page.insert row with
      | error fault =>
          rw [inserts] at answers
          rw [answers]
          rfl
      | ok answer =>
          rw [inserts] at answers
          obtain ⟨slot, _, answers⟩ := answers
          rw [answers]
          rfl
  | delete row =>
      unfold call Page.edit
      dsimp only
      rw [run_deleteInPlace]
      cases page.delete row <;> rfl
  | deleteSlot slot =>
      unfold call Page.edit
      dsimp only
      rw [run_deleteSlotInPlace]
      cases page.deleteSlot slot <;> rfl
  | mark owner => rfl

theorem callEach_eq (page : Page) (edits : List PageEdit) :
    page.callEach edits = page.editEach edits := by
  have same : call = edit := by
    funext page edit
    exact page.call_eq edit
  rw [callEach, same, editEach]

end

/-! ### Arrays of optional rows -/

/-- The page is an array of optional rows for the identifier and the schema: the bits tell which
slots have one, every row is where it says, and the slots without a row are counted. -/
structure Arrayed (page : Page) (id : PageId) (schema : Schema) : Prop where
  sameId : page.id = id
  sameSchema : page.schema = schema
  covered : ∀ slot, slot < page.slotCount → slot / 8 < page.header.length
  used_iff : ∀ slot, page.isUsed slot = true ↔ ∃ row, page.row? slot = some row
  rows : ∀ slot row, page.row? slot = some row →
    slot < page.slotCount ∧ row.record = some ⟨id, slot⟩ ∧ row.schema = schema ∧ row.Typed
  counted : page.vacantCount + page.rows.length = page.slotCount

/-- One slot has come to have the content, and nothing else of the page has changed, spare bits of
the header included. -/
structure Changes (page next : Page) (slot : Nat) (content : Option Row) : Prop where
  row? : ∀ other, next.row? other = if other = slot then content else page.row? other
  bits : ∀ bit, Bitmap.isSet next.header bit =
    if bit = slot then content.isSome else Bitmap.isSet page.header bit
  header : next.header.length = page.header.length
  slotCount : next.slotCount = page.slotCount
  id : next.id = page.id
  schema : next.schema = page.schema
  size : next.size = page.size
  owner : next.owner = page.owner

def LowestVacant (page : Page) (slot : Nat) : Prop :=
  slot < page.slotCount ∧ page.row? slot = none ∧
    ∀ lower, lower < slot → ∃ row, page.row? lower = some row

/-- What it comes to that the row is stored in the page: it goes to the lowest vacant slot and
learns its record. Step by step it comes to the same, and when the row is not stored, the page and
the row are left alone. -/
structure Stores (page : Page) (row : Row) : Prop where
  stored : row.schema = page.schema → ∀ slot, page.LowestVacant slot → ∃ next,
    page.insert row = .ok (next, row.storedAt ⟨page.id, slot⟩) ∧
      page.Changes next slot (some (row.storedAt ⟨page.id, slot⟩))
  full_iff : row.schema = page.schema → (page.insert row = .error (.pageFull page.id) ↔
    ¬∃ slot, slot < page.slotCount ∧ page.row? slot = none)
  misfit : row.schema ≠ page.schema → page.insert row = .error (.schema .pageSchema)
  stepwise : ∀ next stored, page.insert row = .ok (next, stored) → ∃ slot,
    stored.record = some ⟨page.id, slot⟩ ∧
      insertInPlace.run (page, row) = .ok ⟨page.id, slot⟩ (next, stored)
  failing : ∀ fault, page.insert row = .error fault →
    insertInPlace.run (page, row) = .error fault (page, row)

/-- What it comes to that the slot is emptied: it is vacant afterwards. Step by step it comes to the
same, or else the page is left alone. -/
structure Empties (page : Page) (slot : Nat) : Prop where
  emptied : ∀ row, page.row? slot = some row → ∃ next,
    page.deleteSlot slot = .ok next ∧ page.Changes next slot none
  vacant : slot < page.slotCount → page.row? slot = none →
    page.deleteSlot slot = .error (.slotEmpty page.id slot)
  beyond : page.slotCount ≤ slot →
    page.deleteSlot slot = .error (.invalidSlot slot page.slotCount)
  stepwise : (deleteSlotInPlace slot).run (page, ()) =
    match page.deleteSlot slot with
    | .ok next => .ok () (next, ())
    | .error fault => .error fault (page, ())

/-- What it comes to that the row is deleted from the page: the slot that it names is emptied. Step
by step it comes to the same, or else the page is left alone. The row is, either way. -/
structure Deletes (page : Page) (row : Row) : Prop where
  named : ∀ slot, row.record = some ⟨page.id, slot⟩ → ∀ stored, page.row? slot = some stored →
    ∃ next, page.delete row = .ok next ∧ page.Changes next slot none
  vacant : ∀ slot, row.record = some ⟨page.id, slot⟩ → slot < page.slotCount →
    page.row? slot = none → page.delete row = .error (.slotEmpty page.id slot)
  beyond : ∀ slot, row.record = some ⟨page.id, slot⟩ → page.slotCount ≤ slot →
    page.delete row = .error (.invalidSlot slot page.slotCount)
  foreign : ∀ record, row.record = some record → record.page ≠ page.id →
    page.delete row = .error (.foreignRow record page.id.table)
  unstored : row.record = none → page.delete row = .error .missingRecord
  stepwise : deleteInPlace.run (page, row) =
    match page.delete row with
    | .ok next => .ok () (next, row)
    | .error fault => .error fault (page, row)

section

variable {page : Page}

theorem WellFormed.changes_assign (wellFormed : page.WellFormed) {slot : Nat}
    (inside : slot < page.slots.length) (content : Option Row) :
    page.Changes (page.assign slot content) slot content := by
  refine ⟨page.row?_assign inside content, ?_, ?_, ?_, rfl, rfl, rfl, rfl⟩
  · exact Bitmap.isSet_assign (wellFormed.byte_lt inside) content.isSome
  · exact Bitmap.length_assign page.header slot content.isSome
  · exact List.length_set

theorem WellFormed.isUsed (wellFormed : page.WellFormed) (slot : Nat) :
    page.isUsed slot = (page.row? slot).isSome := by
  unfold Page.isUsed slotCount
  by_cases inside : slot < page.slots.length
  · rw [decide_eq_true inside, Bool.true_and, wellFormed.used slot inside]
  · have outside : page.row? slot = none := by
      rw [Option.eq_none_iff_forall_ne_some]
      intro row found
      exact inside (lt_of_row? found)
    rw [decide_eq_false inside, Bool.false_and, outside]
    rfl

theorem WellFormed.vacantCount_add_length_rows (wellFormed : page.WellFormed) :
    page.vacantCount + page.rows.length = page.slotCount := by
  have slots : page.slots = (List.range page.slots.length).map page.row? := by
    apply List.ext_getElem
    · simp
    · intro slot inside _
      simp [row?, List.getElem?_eq_getElem inside]
  have vacant : page.vacantCount =
      (List.range page.slots.length).countP
        (fun slot => decide ¬((page.row? slot).isSome = true)) := by
    apply List.countP_congr
    intro slot member
    rw [wellFormed.used slot (List.mem_range.mp member)]
    simp
  have occupied : page.rows.length =
      (List.range page.slots.length).countP (fun slot => (page.row? slot).isSome) := by
    rw [Page.rows, List.length_filterMap_eq_countP, slots, List.countP_map]
    simp [Function.comp_def]
  have total : (List.range page.slots.length).length = _ :=
    List.length_eq_countP_add_countP (fun slot => (page.row? slot).isSome)
  rw [List.length_range] at total
  rw [vacant, occupied, slotCount, Nat.add_comm]
  exact total.symm

theorem WellFormed.arrayed (wellFormed : page.WellFormed) :
    page.Arrayed page.id page.schema := by
  refine ⟨rfl, rfl, fun slot inside => wellFormed.byte_lt inside, ?_, ?_,
    wellFormed.vacantCount_add_length_rows⟩
  · intro slot
    rw [wellFormed.isUsed, Option.isSome_iff_exists]
  · intro slot row found
    obtain ⟨sameSchema, typed, recorded⟩ := wellFormed.rows slot row found
    exact ⟨lt_of_row? found, recorded, sameSchema, typed⟩

theorem WellFormed.firstVacant?_eq_some_iff (wellFormed : page.WellFormed) {slot : Nat} :
    page.firstVacant? = some slot ↔ page.LowestVacant slot := by
  have lowest {first : Nat} (vacant : page.firstVacant? = some first) :
      page.LowestVacant first := by
    obtain ⟨inside, empty, before⟩ := wellFormed.firstVacant? vacant
    exact ⟨inside, empty, fun lower below => Option.isSome_iff_exists.mp (before lower below)⟩
  refine ⟨lowest, ?_⟩
  rintro ⟨inside, empty, before⟩
  cases vacant : page.firstVacant? with
  | none =>
      have occupied := wellFormed.isSome_of_isFull (by rw [isFull, vacant]; rfl) inside
      rw [empty] at occupied
      cases occupied
  | some first =>
      obtain ⟨_, emptyFirst, beforeFirst⟩ := lowest vacant
      rcases Nat.lt_trichotomy first slot with below | rfl | above
      · obtain ⟨row, found⟩ := before first below
        rw [emptyFirst] at found
        cases found
      · rfl
      · obtain ⟨row, found⟩ := beforeFirst slot above
        rw [empty] at found
        cases found

theorem WellFormed.stores (wellFormed : page.WellFormed) (row : Row) : page.Stores row := by
  have answers := page.run_insertInPlace row
  refine ⟨?_, ?_, ?_, ?_, ?_⟩
  · intro same slot lowest
    refine ⟨_, ?_, wellFormed.changes_assign lowest.1 _⟩
    unfold Page.insert
    rw [if_pos same, wellFormed.firstVacant?_eq_some_iff.mpr lowest]
  · intro same
    unfold Page.insert
    rw [if_pos same]
    cases vacant : page.firstVacant? with
    | none =>
        refine iff_of_true rfl ?_
        rintro ⟨slot, inside, empty⟩
        have occupied := wellFormed.isSome_of_isFull (by rw [isFull, vacant]; rfl) inside
        rw [empty] at occupied
        cases occupied
    | some slot =>
        obtain ⟨inside, empty, _⟩ := wellFormed.firstVacant?_eq_some_iff.mp vacant
        exact iff_of_false nofun (not_not_intro ⟨slot, inside, empty⟩)
  · intro different
    unfold Page.insert
    rw [if_neg different]
  · intro next stored inserts
    rw [inserts] at answers
    exact answers
  · intro fault fails
    rw [fails] at answers
    exact answers

theorem WellFormed.empties (wellFormed : page.WellFormed) (slot : Nat) : page.Empties slot := by
  refine ⟨?_, ?_, ?_, page.run_deleteSlotInPlace slot ()⟩
  · intro row found
    have inside : slot < page.slotCount := lt_of_row? found
    unfold Page.deleteSlot
    rw [if_pos inside, wellFormed.isUsed, found]
    exact ⟨_, rfl, wellFormed.changes_assign inside none⟩
  · intro inside empty
    unfold Page.deleteSlot
    rw [if_pos inside, wellFormed.isUsed, empty]
    rfl
  · intro outside
    unfold Page.deleteSlot
    rw [if_neg (Nat.not_lt.mpr outside)]

theorem delete_of_named {row : Row} {slot : Nat} (recorded : row.record = some ⟨page.id, slot⟩) :
    page.delete row = page.deleteSlot slot := by
  unfold delete
  rw [recorded]
  exact if_pos rfl

theorem WellFormed.deletes (wellFormed : page.WellFormed) (row : Row) : page.Deletes row := by
  refine ⟨?_, ?_, ?_, ?_, ?_, page.run_deleteInPlace row⟩
  · intro slot recorded stored found
    rw [delete_of_named recorded]
    exact (wellFormed.empties slot).emptied stored found
  · intro slot recorded inside empty
    rw [delete_of_named recorded]
    exact (wellFormed.empties slot).vacant inside empty
  · intro slot recorded outside
    rw [delete_of_named recorded]
    exact (wellFormed.empties slot).beyond outside
  · intro record recorded different
    unfold Page.delete
    rw [recorded]
    exact if_neg different
  · intro unstored
    unfold Page.delete
    rw [unstored]

/-! ### Whatever calls are made -/

structure Extends (page next : Page) : Prop where
  slotCount : next.slotCount = page.slotCount
  spare : ∀ bit, page.slotCount ≤ bit →
    Bitmap.isSet next.header bit = Bitmap.isSet page.header bit

theorem Changes.extends {next : Page} {slot : Nat} {content : Option Row}
    (changes : page.Changes next slot content) (inside : slot < page.slotCount) :
    page.Extends next := by
  refine ⟨changes.slotCount, ?_⟩
  intro bit beyond
  rw [changes.bits, if_neg]
  exact Nat.ne_of_gt (Nat.lt_of_lt_of_le inside beyond)

theorem WellFormed.extends_edit (wellFormed : page.WellFormed) {edit : PageEdit}
    (typed : edit.Typed) : page.Extends (page.edit edit) := by
  have same : page.Extends page := ⟨rfl, fun _ _ => rfl⟩
  cases edit with
  | insert row =>
      unfold Page.edit
      dsimp only
      cases inserts : page.insert row with
      | error fault => exact same
      | ok answer =>
          obtain ⟨_, slot, _, inside, _, next⟩ := wellFormed.insert typed inserts
          dsimp only
          rw [next]
          exact (wellFormed.changes_assign inside _).extends inside
  | delete row =>
      unfold Page.edit
      dsimp only
      cases deletes : page.delete row with
      | error fault => exact same
      | ok next =>
          obtain ⟨_, slot, _, inside, _, rfl⟩ := wellFormed.delete deletes
          exact (wellFormed.changes_assign inside _).extends inside
  | deleteSlot slot =>
      unfold Page.edit
      dsimp only
      cases deletes : page.deleteSlot slot with
      | error fault => exact same
      | ok next =>
          obtain ⟨_, inside, _, rfl⟩ := wellFormed.deleteSlot deletes
          exact (wellFormed.changes_assign inside _).extends inside
  | mark owner => exact ⟨rfl, fun _ _ => rfl⟩

theorem WellFormed.extends_editEach (wellFormed : page.WellFormed) {edits : List PageEdit}
    (typed : ∀ edit ∈ edits, edit.Typed) : page.Extends (page.editEach edits) := by
  induction edits generalizing page with
  | nil => exact ⟨rfl, fun _ _ => rfl⟩
  | cons first rest ih =>
      have firstTyped := typed first List.mem_cons_self
      have early := wellFormed.extends_edit firstTyped
      have late := ih (wellFormed.edit firstTyped).1
        (fun edit member => typed edit (List.mem_cons_of_mem first member))
      refine ⟨late.slotCount.trans early.slotCount, ?_⟩
      intro bit beyond
      exact (late.spare bit (early.slotCount.symm ▸ beyond)).trans (early.spare bit beyond)

end

/-- A page that was read is an array of optional rows, whatever calls have been made on it since and
whether or not these succeeded, with as many slots as at first and the same spare bits. On such a
page a row of its schema is stored in the lowest vacant slot, unless there is none; a slot that is
emptied, by its number or by a row that names it, is vacant afterwards; and nothing else changes.
Calls that work on the page itself, step by step, come to the same, and one that fails leaves the
page and the row passed to it as they were. -/
theorem pages_are_arrays_of_rows {id : PageId} {schema : Schema} {image : List UInt8} {page : Page}
    (read : decode id schema image = .ok page) {edits : List PageEdit}
    (typed : ∀ edit ∈ edits, edit.Typed) :
    page.callEach edits = page.editEach edits ∧ (page.editEach edits).Arrayed id schema ∧
      page.Extends (page.editEach edits) ∧ (∀ row, (page.editEach edits).Stores row) ∧
      (∀ slot, (page.editEach edits).Empties slot) ∧
        ∀ row, (page.editEach edits).Deletes row := by
  obtain ⟨wellFormed, sameId, sameSchema, _⟩ := wellFormed_of_decode read
  obtain ⟨kept, succeeds⟩ := wellFormed.editEach typed
  have arrayed := kept.arrayed
  rw [succeeds.id, sameId, succeeds.schema, sameSchema] at arrayed
  exact ⟨page.callEach_eq edits, arrayed, wellFormed.extends_editEach typed, kept.stores,
    kept.empties, kept.deletes⟩

/-- Three slots share one byte with five spare bits, of which one is set. A row is stored in the
lowest vacant slot, the slot before it is emptied, and two calls fail. -/
theorem pages_are_arrays_of_rows_spare_bits :
    let id : PageId := ⟨⟨0⟩, 3⟩
    let schema : Schema := ⟨[⟨.int, none⟩]⟩
    let image : List UInt8 := [0x21, 0, 0, 0, 7, 0, 0, 0, 0, 0, 0, 0, 0, 0, 0, 0]
    let row : Row := ⟨schema, [.int (-1)], none⟩
    let page : Page :=
      ⟨id, schema, 16, [0x21], [some ⟨schema, [.int 7], some ⟨id, 0⟩⟩, none, none], none⟩
    let edits : List PageEdit :=
      [.insert row, .deleteSlot 0, .deleteSlot 0, .delete row, .mark (some ⟨7⟩)]
    decode id schema image = .ok page ∧ (∀ edit ∈ edits, edit.Typed) ∧
      (page.editEach edits).header = [0x22] ∧ (page.editEach edits).LowestVacant 0 ∧
      (page.editEach edits).Arrayed id schema ∧ (page.editEach edits).Stores row ∧
        (page.editEach edits).Empties 1 := by
  intro id schema image row page edits
  have read : decode id schema image = .ok page := by decide +kernel
  have typed : ∀ edit ∈ edits, edit.Typed := by decide +kernel
  have header : (page.editEach edits).header = [0x22] := by decide +kernel
  have lowest : (page.editEach edits).LowestVacant 0 :=
    ⟨by decide +kernel, by decide +kernel, fun lower below => absurd below (Nat.not_lt_zero lower)⟩
  obtain ⟨_, arrayed, _, stores, empties, _⟩ := pages_are_arrays_of_rows read typed
  exact ⟨read, typed, header, lowest, arrayed, stores row, empties 1⟩

end RowStore.Page
