import Mathlib.Data.List.Forall2
import RowStore.Proofs.Page.Image

/-!
Edited pages: rows are stored in a page that was read, and deleted from it, and the page is marked,
in any order and whether or not each of these calls succeeds. The page stays well-formed under its
own identifier, so that it is read back from its image.
-/

set_option autoImplicit false

namespace RowStore

inductive PageEdit where
  | insert (row : Row)
  | delete (row : Row)
  | deleteSlot (slot : Nat)
  | mark (owner : Option TransactionId)
  deriving DecidableEq, Repr

/-- A row to be stored has the field types that its schema declares, as every row has that was built
or read. -/
def PageEdit.Typed : PageEdit → Prop
  | .insert row => row.Typed
  | _ => True

instance (edit : PageEdit) : Decidable edit.Typed := by
  cases edit <;> unfold PageEdit.Typed <;> infer_instance

namespace Page

/-- The page after a call. A call that fails leaves it alone. -/
def edit (page : Page) : PageEdit → Page
  | .insert row =>
      match page.insert row with
      | .ok (next, _) => next
      | .error _ => page
  | .delete row => (page.delete row).toOption.getD page
  | .deleteSlot slot => (page.deleteSlot slot).toOption.getD page
  | .mark owner => page.mark owner

def editEach (page : Page) (edits : List PageEdit) : Page :=
  edits.foldl edit page

/-! ### Shape -/

structure Succeeds (next page : Page) : Prop where
  id : next.id = page.id
  schema : next.schema = page.schema
  size : next.size = page.size

theorem Succeeds.refl (page : Page) : page.Succeeds page :=
  ⟨rfl, rfl, rfl⟩

theorem Succeeds.trans {last next page : Page} (later : last.Succeeds next)
    (first : next.Succeeds page) : last.Succeeds page :=
  ⟨later.id.trans first.id, later.schema.trans first.schema, later.size.trans first.size⟩

theorem WellFormed.edit {page : Page} (wellFormed : page.WellFormed) {edit : PageEdit}
    (typed : edit.Typed) : (page.edit edit).WellFormed ∧ (page.edit edit).Succeeds page := by
  cases edit with
  | insert row =>
      unfold Page.edit
      dsimp only
      cases inserts : page.insert row with
      | error fault => exact ⟨wellFormed, .refl page⟩
      | ok answer =>
          obtain ⟨kept, slot, _, _, _, same⟩ := wellFormed.insert typed inserts
          refine ⟨kept, ?_⟩
          dsimp only
          rw [same]
          exact ⟨rfl, rfl, rfl⟩
  | delete row =>
      unfold Page.edit
      dsimp only
      cases deletes : page.delete row with
      | error fault => exact ⟨wellFormed, .refl page⟩
      | ok next =>
          obtain ⟨kept, slot, _, _, _, rfl⟩ := wellFormed.delete deletes
          exact ⟨kept, rfl, rfl, rfl⟩
  | deleteSlot slot =>
      unfold Page.edit
      dsimp only
      cases deletes : page.deleteSlot slot with
      | error fault => exact ⟨wellFormed, .refl page⟩
      | ok next =>
          obtain ⟨kept, _, _, rfl⟩ := wellFormed.deleteSlot deletes
          exact ⟨kept, rfl, rfl, rfl⟩
  | mark owner => exact ⟨wellFormed.mark owner, rfl, rfl, rfl⟩

theorem WellFormed.editEach {page : Page} (wellFormed : page.WellFormed) {edits : List PageEdit}
    (typed : ∀ edit ∈ edits, edit.Typed) :
    (page.editEach edits).WellFormed ∧ (page.editEach edits).Succeeds page := by
  induction edits generalizing page with
  | nil => exact ⟨wellFormed, .refl page⟩
  | cons first rest ih =>
      obtain ⟨kept, succeeds⟩ := wellFormed.edit (typed first List.mem_cons_self)
      obtain ⟨keptOn, succeedsOn⟩ :=
        ih kept (fun edit member => typed edit (List.mem_cons_of_mem first member))
      exact ⟨keptOn, succeedsOn.trans succeeds⟩

/-! ### Reading back -/

theorem isUsed_cut (page : Page) (slot : Nat) : page.cut.isUsed slot = page.isUsed slot := by
  unfold isUsed slotCount cut
  dsimp only
  rw [List.length_map]

/-- The row that is read back of this one, under the record of a slot. -/
def ReadsBackAt (record : RecordId) (stored row : Row) : Prop :=
  row.record = some record ∧ List.Forall₂ Field.ReadsBack stored.fields row.fields

theorem readsBackAt_cut {record : RecordId} {row : Row} (recorded : row.record = some record) :
    ReadsBackAt record row row.cut := by
  refine ⟨recorded, ?_⟩
  unfold Row.cut
  dsimp only
  rw [List.forall₂_map_right_iff, List.forall₂_same]
  exact fun field _ => field.readsBack_stored

/-- A page that was read, whatever calls have edited it since, is read back from its image: clean,
with the same slots, of which the same ones are used, and with each row under the record of its
slot, its texts cut. -/
theorem edited_page_reads_back {id : PageId} {schema : Schema} {image : List UInt8} {page : Page}
    (read : decode id schema image = .ok page) {edits : List PageEdit}
    (typed : ∀ edit ∈ edits, edit.Typed) :
    (page.editEach edits).encode.length = image.length ∧
      ∃ again, decode id schema (page.editEach edits).encode = .ok again ∧
        again.slotCount = (page.editEach edits).slotCount ∧ again.owner = none ∧
          ∀ slot, again.isUsed slot = (page.editEach edits).isUsed slot ∧
            Option.Rel (ReadsBackAt ⟨id, slot⟩) ((page.editEach edits).row? slot)
              (again.row? slot) := by
  obtain ⟨wellFormed, sameId, sameSchema, sameSize, _⟩ := wellFormed_of_decode read
  obtain ⟨kept, succeeds⟩ := wellFormed.editEach typed
  have editedId := succeeds.id.trans sameId
  have readAgain := kept.decode_encode
  rw [editedId, succeeds.schema.trans sameSchema] at readAgain
  refine ⟨kept.length_encode.trans (succeeds.size.trans sameSize), _, readAgain, ?_, rfl, ?_⟩
  · exact List.length_map _
  · intro slot
    refine ⟨isUsed_cut _ slot, ?_⟩
    rw [row?_cut]
    cases found : (page.editEach edits).row? slot with
    | none => exact .none
    | some row =>
        obtain ⟨_, _, recorded⟩ := kept.rows slot row found
        rw [editedId] at recorded
        exact .some (readsBackAt_cut recorded)

/-- A text of 129 bytes is stored behind a row that is deleted again, and loses its last
character. -/
theorem edited_page_reads_back_cut_text :
    let id : PageId := ⟨⟨0⟩, 3⟩
    let schema : Schema := ⟨[⟨.string, none⟩, ⟨.int, none⟩]⟩
    let long : Row := ⟨schema, [.string (String.ofList (List.replicate 127 'a' ++ ['é'])),
      .int (-1)], none⟩
    let short : Row := ⟨schema, [.string "b", .int 2], none⟩
    let edits : List PageEdit :=
      [.insert short, .insert long, .insert short, .deleteSlot 0, .mark (some ⟨7⟩)]
    let page : Page := ⟨id, schema, 280, [0], [none, none], none⟩
    decode id schema (emptyImage 280) = .ok page ∧ (∀ edit ∈ edits, edit.Typed) ∧
      (page.editEach edits).encode.length = (emptyImage 280).length ∧
        ∃ again, decode id schema (page.editEach edits).encode = .ok again ∧
          again.slotCount = (page.editEach edits).slotCount ∧ again.owner = none ∧
            ∀ slot, again.isUsed slot = (page.editEach edits).isUsed slot ∧
              Option.Rel (ReadsBackAt ⟨id, slot⟩) ((page.editEach edits).row? slot)
                (again.row? slot) := by
  intro id schema long short edits page
  have read : decode id schema (emptyImage 280) = .ok page := by decide +kernel
  have typed : ∀ edit ∈ edits, edit.Typed := by decide +kernel
  exact ⟨read, typed, edited_page_reads_back read typed⟩

end Page

end RowStore
