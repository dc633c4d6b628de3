import Mathlib.Data.List.Sort
import RowStore.Proofs.Database.Contents

/-!
Listings: the rows of a table as they are on the disk, by ascending page and slot, are those of any
map with the same contents, by ascending record.
-/

set_option autoImplicit false

namespace RowStore

/-! ### The order of records -/

theorem RecordId.compare_of_slot_lt (page : PageId) {left right : Nat} (before : left < right) :
    compare (⟨page, left⟩ : RecordId) ⟨page, right⟩ = .lt :=
  Ordering.then_eq_lt.mpr (Or.inr ⟨Std.ReflCmp.compare_self, Nat.compare_eq_lt.mpr before⟩)

theorem RecordId.compare_of_number_lt (table : TableId) {left right : Nat} (before : left < right)
    (leftSlot rightSlot : Nat) :
    compare (⟨⟨table, left⟩, leftSlot⟩ : RecordId) ⟨⟨table, right⟩, rightSlot⟩ = .lt := by
  have pages : compare (⟨table, left⟩ : PageId) ⟨table, right⟩ = .lt :=
    Ordering.then_eq_lt.mpr (Or.inr ⟨Std.ReflCmp.compare_self, Nat.compare_eq_lt.mpr before⟩)
  exact Ordering.then_eq_lt.mpr (Or.inl pages)

def Row.Precedes (left right : Row) : Prop :=
  ∃ first second, left.record = some first ∧ right.record = some second ∧
    compare first second = .lt

instance : Std.Irrefl Row.Precedes where
  irrefl row := by
    rintro ⟨first, second, left, right, before⟩
    rw [left] at right
    cases right
    have same : compare first first = .eq := Std.ReflCmp.compare_self
    rw [same] at before
    cases before

instance : Std.Antisymm Row.Precedes where
  antisymm left right := by
    rintro ⟨first, second, recordLeft, recordRight, before⟩ ⟨third, fourth, again, other, after⟩
    rw [recordRight] at again
    cases again
    rw [recordLeft] at other
    cases other
    have swapped : compare second first = (compare first second).swap := Std.OrientedCmp.eq_swap
    rw [swapped, before] at after
    cases after

/-! ### Rows of a page -/

namespace Page

variable {page : Page}

theorem mem_rows {row : Row} : row ∈ page.rows ↔ ∃ slot, page.row? slot = some row := by
  constructor
  · intro member
    obtain ⟨content, inside, rfl⟩ := List.mem_filterMap.mp member
    obtain ⟨slot, found⟩ := List.mem_iff_getElem?.mp inside
    refine ⟨slot, ?_⟩
    unfold row?
    rw [found]
    rfl
  · rintro ⟨slot, found⟩
    have inside := List.mem_iff_getElem?.mpr ⟨slot, Option.join_eq_some_iff.mp found⟩
    exact List.mem_filterMap.mpr ⟨some row, inside, rfl⟩

theorem WellFormed.rows_ordered (wellFormed : page.WellFormed) :
    page.rows.Pairwise Row.Precedes := by
  apply List.pairwise_filterMap.mpr
  apply List.pairwise_iff_getElem.mpr
  intro left right insideLeft insideRight before first foundFirst second foundSecond
  have recordOf {slot : Nat} (inside : slot < page.slots.length) {row : Row}
      (found : page.slots[slot] = some row) : row.record = some ⟨page.id, slot⟩ := by
    refine (wellFormed.rows slot row ?_).2.2
    unfold row?
    rw [List.getElem?_eq_getElem inside, found]
    rfl
  exact ⟨_, _, recordOf insideLeft foundFirst, recordOf insideRight foundSecond,
    RecordId.compare_of_slot_lt page.id before⟩

end Page

/-! ### Rows of a table -/

namespace TableFile

section

variable {file : TableFile} {volume : Volume} {number : Nat} {row : Row}

def rowsAt (file : TableFile) (volume : Volume) (number : Nat) : List Row :=
  match file.readPage volume (file.pageId number) with
  | .ok page => page.rows
  | .error _ => []

def rowsFrom (file : TableFile) (volume : Volume) (first : Nat) : List Row :=
  (List.range' first (file.pageCount volume - first)).flatMap (file.rowsAt volume)

theorem rowsFrom_of_lt (inside : number < file.pageCount volume) :
    file.rowsFrom volume number =
      file.rowsAt volume number ++ file.rowsFrom volume (number + 1) := by
  have more : file.pageCount volume - number = file.pageCount volume - (number + 1) + 1 := by omega
  unfold rowsFrom
  rw [more, List.range'_succ, List.flatMap_cons]

theorem rowsFrom_of_le (outside : file.pageCount volume ≤ number) :
    file.rowsFrom volume number = [] := by
  unfold rowsFrom
  rw [Nat.sub_eq_zero_of_le outside]
  rfl

theorem rowsAt_of_readPage {page : Page}
    (read : file.readPage volume (file.pageId number) = .ok page) :
    file.rowsAt volume number = page.rows := by
  unfold rowsAt
  rw [read]

theorem mem_rowsAt : row ∈ file.rowsAt volume number ↔
    ∃ page, file.readPage volume (file.pageId number) = .ok page ∧ row ∈ page.rows := by
  unfold rowsAt
  split
  · rename_i page read
    simp [read]
  · rename_i fault read
    simp [read]

theorem record_of_mem_rowsAt (member : row ∈ file.rowsAt volume number) :
    ∃ slot, row.record = some ⟨file.pageId number, slot⟩ := by
  obtain ⟨page, read, inside⟩ := mem_rowsAt.mp member
  obtain ⟨wellFormed, id, _⟩ := wellFormed_of_readPage read
  obtain ⟨slot, found⟩ := Page.mem_rows.mp inside
  refine ⟨slot, ?_⟩
  rw [← id]
  exact (wellFormed.rows slot row found).2.2

theorem rowsAt_ordered (file : TableFile) (volume : Volume) (number : Nat) :
    (file.rowsAt volume number).Pairwise Row.Precedes := by
  unfold rowsAt
  split
  · rename_i page read
    exact (wellFormed_of_readPage read).1.rows_ordered
  · exact .nil

theorem rowsFrom_ordered (file : TableFile) (volume : Volume) (first : Nat) :
    (file.rowsFrom volume first).Pairwise Row.Precedes := by
  apply List.pairwise_flatMap.mpr
  refine ⟨fun number _ => file.rowsAt_ordered volume number, ?_⟩
  apply (List.pairwise_lt_range' 1).imp
  intro left right before first memberFirst second memberSecond
  obtain ⟨leftSlot, recordFirst⟩ := record_of_mem_rowsAt memberFirst
  obtain ⟨rightSlot, recordSecond⟩ := record_of_mem_rowsAt memberSecond
  exact ⟨_, _, recordFirst, recordSecond,
    RecordId.compare_of_number_lt file.id before leftSlot rightSlot⟩

end

end TableFile

/-! ### Rows by record -/

abbrev Rows := Std.ExtTreeMap RecordId (List Field)

namespace Rows

def listing (rows : Rows) (schema : Schema) : List Row :=
  rows.toList.map (fun entry => ⟨schema, entry.2.map Field.stored, some entry.1⟩)

theorem mem_listing {rows : Rows} {schema : Schema} {row : Row} :
    row ∈ rows.listing schema ↔
      ∃ record fields, rows[record]? = some fields ∧
        row = ⟨schema, fields.map Field.stored, some record⟩ := by
  constructor
  · intro member
    obtain ⟨⟨record, fields⟩, inside, rfl⟩ := List.mem_map.mp member
    exact ⟨record, fields, Std.ExtTreeMap.mem_toList_iff_getElem?_eq_some.mp inside, rfl⟩
  · rintro ⟨record, fields, found, rfl⟩
    exact List.mem_map.mpr
      ⟨(record, fields), Std.ExtTreeMap.mem_toList_iff_getElem?_eq_some.mpr found, rfl⟩

theorem listing_ordered (rows : Rows) (schema : Schema) :
    (rows.listing schema).Pairwise Row.Precedes := by
  apply List.pairwise_map.mpr
  apply Std.ExtTreeMap.ordered_keys_toList.imp
  intro left right before
  exact ⟨left.1, right.1, rfl, rfl, before⟩

def after (rows : Rows) (change : Change) : Rows :=
  match change.fields with
  | some fields => rows.insert change.record fields
  | none => rows.erase change.record

theorem getElem?_after (rows : Rows) (change : Change) (record : RecordId) :
    (rows.after change)[record]? =
      if record = change.record then change.fields else rows[record]? := by
  unfold after
  cases change.fields with
  | some fields =>
      simp only [Std.ExtTreeMap.getElem?_insert, Std.LawfulEqCmp.compare_eq_iff_eq,
        @eq_comm _ change.record record]
  | none =>
      simp only [Std.ExtTreeMap.getElem?_erase, Std.LawfulEqCmp.compare_eq_iff_eq,
        @eq_comm _ change.record record]

/-- The map has, cut as on the disk, what the contents have of one table and nothing else. -/
def Mirrors (rows : Rows) (table : TableId) (contents : RecordId → Option (List Field)) : Prop :=
  ∀ record : RecordId, (rows[record]?).map (fun fields => fields.map Field.stored) =
    if record.page.table = table then
      (contents record).map (fun fields => fields.map Field.stored)
    else none

section

variable {rows : Rows} {table : TableId} {contents others : RecordId → Option (List Field)}

theorem Mirrors.of_cut (mirrors : rows.Mirrors table contents)
    (same : ∀ record, (others record).map (fun fields => fields.map Field.stored) =
      (contents record).map (fun fields => fields.map Field.stored)) :
    rows.Mirrors table others := by
  intro record
  rw [same]
  exact mirrors record

/-- A change of the table's contents is one of the map. In another table a row may only be
deleted. -/
theorem Mirrors.after (mirrors : rows.Mirrors table contents) {change : Change}
    (mine : change.fields.isSome → change.record.page.table = table) :
    (rows.after change).Mirrors table (replay contents [change]) := by
  intro record
  have replayed : replay contents [change] record =
      if record = change.record then change.fields else contents record :=
    replay_append_singleton contents [] change record
  rw [getElem?_after, replayed]
  by_cases same : record = change.record
  · subst same
    simp only [if_true]
    cases fields : change.fields with
    | some stored =>
        rw [fields] at mine
        rw [if_pos (mine rfl)]
    | none => exact (ite_self none).symm
  · rw [if_neg same, if_neg same]
    exact mirrors record

theorem Mirrors.isSome (mirrors : rows.Mirrors table contents) {record : RecordId}
    (mine : record.page.table = table) :
    (rows[record]?).isSome = (contents record).isSome := by
  have same := congrArg Option.isSome (mirrors record)
  rw [if_pos mine, Option.isSome_map, Option.isSome_map] at same
  exact same

end

end Rows

/-! ### The disk as a map -/

namespace Database

section

variable {database : Database} {file : TableFile} {row : Row}
  (registered : database.catalog.file file.id = .ok file)

include registered in
theorem mem_rowsFrom_zero :
    row ∈ file.rowsFrom database.volume 0 ↔
      ∃ record fields, record.page.table = file.id ∧ database.stored record = some fields ∧
        row = ⟨file.schema, fields, some record⟩ := by
  constructor
  · intro member
    obtain ⟨number, _, atNumber⟩ := List.mem_flatMap.mp member
    obtain ⟨page, read, inside⟩ := TableFile.mem_rowsAt.mp atNumber
    obtain ⟨wellFormed, id, schema, _⟩ := TableFile.wellFormed_of_readPage read
    obtain ⟨slot, found⟩ := Page.mem_rows.mp inside
    obtain ⟨sameSchema, _, recorded⟩ := wellFormed.rows slot row found
    have onDisk : database.diskPage? (file.pageId number) = some page :=
      diskPage?_eq_some.mpr ⟨file, registered, read⟩
    refine ⟨⟨file.pageId number, slot⟩, row.fields, rfl, ?_, ?_⟩
    · rw [stored_of_diskPage? onDisk, found, Option.map_some]
    · rw [← id, ← recorded, ← schema, ← sameSchema]
  · rintro ⟨⟨⟨table, number⟩, slot⟩, fields, rfl, stored, rfl⟩
    unfold Database.stored at stored
    split at stored
    · rename_i page onDisk
      obtain ⟨found, inSlot, rfl⟩ := Option.map_eq_some_iff.mp stored
      obtain ⟨own, registeredOwn, read⟩ := diskPage?_eq_some.mp onDisk
      cases registered.symm.trans registeredOwn
      obtain ⟨wellFormed, id, schema, _⟩ := TableFile.wellFormed_of_readPage read
      obtain ⟨sameSchema, _, recorded⟩ := wellFormed.rows slot found inSlot
      have whole : (⟨file.schema, found.fields, some ⟨⟨file.id, number⟩, slot⟩⟩ : Row) = found := by
        dsimp only at id
        rw [← schema, ← sameSchema, ← id, ← recorded]
      have inside : number < file.pageCount database.volume :=
        (TableFile.lt_pageCount_of_readPage read).2
      rw [whole]
      apply List.mem_flatMap.mpr
      refine ⟨number, List.mem_range'_1.mpr (by omega), ?_⟩
      exact TableFile.mem_rowsAt.mpr ⟨page, read, Page.mem_rows.mpr ⟨slot, inSlot⟩⟩
    · cases stored

include registered in
theorem rowsFrom_zero_eq_listing {rows : Rows} (mirrors : rows.Mirrors file.id database.stored) :
    file.rowsFrom database.volume 0 = rows.listing file.schema := by
  apply (file.rowsFrom_ordered database.volume 0).eq_of_mem_iff (rows.listing_ordered file.schema)
  intro row
  rw [mem_rowsFrom_zero registered, Rows.mem_listing]
  constructor
  · rintro ⟨record, fields, mine, stored, rfl⟩
    have same := mirrors record
    rw [if_pos mine, stored_cut, stored] at same
    obtain ⟨whole, found, rfl⟩ := Option.map_eq_some_iff.mp same
    exact ⟨record, whole, found, rfl⟩
  · rintro ⟨record, fields, found, rfl⟩
    have same := mirrors record
    rw [found, Option.map_some, stored_cut] at same
    by_cases mine : record.page.table = file.id
    · rw [if_pos mine] at same
      exact ⟨record, _, mine, same.symm, rfl⟩
    · rw [if_neg mine] at same
      cases same

end

end Database

end RowStore
