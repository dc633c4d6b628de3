import RowStore.Proofs.Disk.PagedFile
import RowStore.Proofs.Disk.Volume
import RowStore.Proofs.Page.Image
import RowStore.TableFile

/-!
Table files on disk: a page that was written is read back, and every other page of every file stays
as it was. A page that is added has no rows.
-/

set_option autoImplicit false

namespace RowStore

namespace TableFile

/-! ### Reading -/

private def image (file : TableFile) (volume : Volume) (number : Nat) : List UInt8 :=
  ((volume.bytes file.path).drop (number * file.pageSize)).take file.pageSize

private theorem end_le_of_lt_pageCount {file : TableFile} {volume : Volume} {number : Nat}
    (present : number < file.pageCount volume) :
    number * file.pageSize + file.pageSize ≤ (volume.bytes file.path).length :=
  (PagedFile.lt_pageCount_iff (PagedFile.pageSize_pos present)).mp present

private theorem read_of_lt {file : TableFile} {volume : Volume} {number : Nat}
    (present : number < file.pageCount volume) :
    (file.pages volume).read number file.pageSize = .ok (file.image volume number) :=
  PagedFile.read_eq_ok.mpr ⟨end_le_of_lt_pageCount present, rfl⟩

private theorem readPage_of_lt {file : TableFile} {volume : Volume} {page : PageId}
    (mine : page.table = file.id) (present : page.number < file.pageCount volume) :
    file.readPage volume page = Page.decode page file.schema (file.image volume page.number) := by
  unfold readPage
  rw [if_pos ⟨mine, present⟩, read_of_lt present]
  rfl

theorem pageSize_pos {file : TableFile} {volume : Volume} (paged : 0 < file.pageCount volume) :
    0 < file.pageSize :=
  PagedFile.pageSize_pos paged

theorem lt_pageCount_of_readPage {file : TableFile} {volume : Volume} {page : PageId}
    {content : Page} (read : file.readPage volume page = .ok content) :
    page.table = file.id ∧ page.number < file.pageCount volume := by
  unfold readPage at read
  split at read
  · assumption
  · cases read

theorem wellFormed_of_readPage {file : TableFile} {volume : Volume} {page : PageId}
    {content : Page} (read : file.readPage volume page = .ok content) :
    content.WellFormed ∧ content.id = page ∧ content.schema = file.schema ∧
      content.size = file.pageSize ∧ content.owner = none ∧ content.cut = content := by
  obtain ⟨mine, present⟩ := lt_pageCount_of_readPage read
  have inside := end_le_of_lt_pageCount present
  rw [readPage_of_lt mine present] at read
  have decoded := Page.wellFormed_of_decode read
  have length : (file.image volume page.number).length = file.pageSize := by
    unfold image
    rw [List.length_take, List.length_drop]
    omega
  rwa [length] at decoded

private theorem readPage_congr {file : TableFile} {volume next : Volume} {page : PageId}
    (counts : page.number < file.pageCount volume ↔ page.number < file.pageCount next)
    (images : page.number < file.pageCount volume →
      file.image next page.number = file.image volume page.number) :
    file.readPage next page = file.readPage volume page := by
  by_cases mine : page.table = file.id
  · by_cases present : page.number < file.pageCount volume
    · rw [readPage_of_lt mine present, readPage_of_lt mine (counts.mp present), images present]
    · have absent : ¬page.number < file.pageCount next := fun found => present (counts.mpr found)
      unfold readPage
      rw [if_neg (fun both => absent both.2), if_neg (fun both => present both.2)]
  · unfold readPage
    rw [if_neg (fun both => mine both.1), if_neg (fun both => mine both.1)]

theorem pages_write (file : TableFile) (volume : Volume) (bytes : List UInt8) :
    file.pages (volume.write file.path bytes) = ⟨file.pageSize, bytes⟩ := by
  unfold pages
  rw [Volume.bytes_write]

theorem pages_write_of_ne {file : TableFile} {path : String} (different : path ≠ file.path)
    (volume : Volume) (bytes : List UInt8) :
    file.pages (volume.write path bytes) = file.pages volume := by
  unfold pages
  rw [Volume.bytes_write_of_ne different]

theorem readPage_write_of_ne {file : TableFile} {path : String} (different : path ≠ file.path)
    (volume : Volume) (bytes : List UInt8) (page : PageId) :
    file.readPage (volume.write path bytes) page = file.readPage volume page := by
  unfold readPage pageCount
  rw [pages_write_of_ne different]

theorem pageCount_write_of_ne {file : TableFile} {path : String} (different : path ≠ file.path)
    (volume : Volume) (bytes : List UInt8) :
    file.pageCount (volume.write path bytes) = file.pageCount volume := by
  unfold pageCount
  rw [pages_write_of_ne different]

/-! ### Writing -/

def withPage (file : TableFile) (volume : Volume) (page : Page) : Volume :=
  volume.write file.path (PagedFile.splice (volume.bytes file.path)
    (page.id.number * file.pageSize) page.encode)

theorem writePage_eq {file : TableFile} {page : Page} (wellFormed : page.WellFormed)
    (mine : page.id.table = file.id) (size : page.size = file.pageSize) (volume : Volume) :
    file.writePage volume page = .ok (file.withPage volume page) := by
  have length : page.encode.length = (file.pages volume).pageSize :=
    wellFormed.length_encode.trans size
  unfold writePage PagedFile.write PagedFile.checkLength
  rw [if_pos mine, if_pos length]
  rfl

theorem writePage_cases {file : TableFile} {volume written : Volume} {page : Page}
    (writes : file.writePage volume page = .ok written) :
    page.encode.length = file.pageSize ∧ written = file.withPage volume page := by
  unfold writePage PagedFile.write PagedFile.checkLength at writes
  split at writes
  · split at writes
    · rename_i length
      cases writes
      exact ⟨length, rfl⟩
    · cases writes
  · cases writes

section

variable {file : TableFile} {volume : Volume} {page : Page}

private theorem inside_of_lt (length : page.encode.length = file.pageSize)
    (present : page.id.number < file.pageCount volume) :
    page.id.number * file.pageSize + page.encode.length ≤ (volume.bytes file.path).length := by
  rw [length]
  exact end_le_of_lt_pageCount present

private theorem pageCount_withPage (length : page.encode.length = file.pageSize)
    (present : page.id.number < file.pageCount volume) :
    file.pageCount (file.withPage volume page) = file.pageCount volume := by
  unfold pageCount PagedFile.pageCount pages withPage
  rw [Volume.bytes_write]
  dsimp only
  rw [PagedFile.length_splice_inside (inside_of_lt length present)]

theorem readPage_withPage (wellFormed : page.WellFormed) (mine : page.id.table = file.id)
    (schema : page.schema = file.schema) (size : page.size = file.pageSize)
    (present : page.id.number < file.pageCount volume) :
    file.readPage (file.withPage volume page) page.id = .ok page.cut := by
  have length : page.encode.length = file.pageSize := wellFormed.length_encode.trans size
  have presentAfter := present
  rw [← pageCount_withPage length present] at presentAfter
  rw [readPage_of_lt mine presentAfter]
  unfold image withPage
  rw [Volume.bytes_write]
  have back := PagedFile.read_splice_self (volume.bytes file.path) page.encode
    (page.id.number * file.pageSize)
  rw [length] at back
  rw [back, ← schema]
  exact wellFormed.decode_encode

theorem readPage_withPage_of_ne (wellFormed : page.WellFormed) (mine : page.id.table = file.id)
    (size : page.size = file.pageSize) (present : page.id.number < file.pageCount volume)
    {other : PageId} (different : other ≠ page.id) :
    file.readPage (file.withPage volume page) other = file.readPage volume other := by
  have length : page.encode.length = file.pageSize := wellFormed.length_encode.trans size
  by_cases foreign : other.table = file.id
  · apply readPage_congr
    · rw [pageCount_withPage length present]
    · intro there
      have apart : other.number ≠ page.id.number := by
        intro same
        apply different
        rw [PageId.mk.injEq]
        exact ⟨foreign.trans mine.symm, same⟩
      unfold image withPage
      rw [Volume.bytes_write]
      apply PagedFile.read_splice_of_apart (end_le_of_lt_pageCount there)
      rw [length]
      exact PagedFile.apart_of_ne file.pageSize apart
  · unfold readPage
    rw [if_neg (fun both => foreign both.1), if_neg (fun both => foreign both.1)]

end

/-! ### Bytes that a write leaves alone -/

end TableFile

/-- The second volume is the first one with other bytes at some of these places. -/
structure Volume.Overwritten (before after : Volume) (places : String → Nat → Prop) : Prop where
  folders : after.folders = before.folders
  present : ∀ path, after.files.contains path = before.files.contains path
  lengths : ∀ path, (after.bytes path).length = (before.bytes path).length
  bytes : ∀ path offset, ¬places path offset →
    (after.bytes path)[offset]? = (before.bytes path)[offset]?

namespace Volume

theorem Overwritten.refl (volume : Volume) (places : String → Nat → Prop) :
    volume.Overwritten volume places :=
  ⟨rfl, fun _ => rfl, fun _ => rfl, fun _ _ _ => rfl⟩

theorem Overwritten.trans {first second third : Volume} {places : String → Nat → Prop}
    (start : first.Overwritten second places) (rest : second.Overwritten third places) :
    first.Overwritten third places where
  folders := rest.folders.trans start.folders
  present := fun path => (rest.present path).trans (start.present path)
  lengths := fun path => (rest.lengths path).trans (start.lengths path)
  bytes := fun path offset outside =>
    (rest.bytes path offset outside).trans (start.bytes path offset outside)

theorem Overwritten.mono {before after : Volume} {places more : String → Nat → Prop}
    (overwritten : before.Overwritten after places)
    (within : ∀ path offset, places path offset → more path offset) :
    before.Overwritten after more :=
  { overwritten with
    bytes := fun path offset outside =>
      overwritten.bytes path offset (fun inside => outside (within path offset inside)) }

theorem contains_of_length_pos {volume : Volume} {path : String}
    (some : 0 < (volume.bytes path).length) : volume.files.contains path = true := by
  cases found : volume.files.contains path with
  | true => rfl
  | false =>
      unfold bytes at some
      rw [Std.ExtTreeMap.getD_eq_fallback_of_contains_eq_false found] at some
      exact absurd some (Nat.lt_irrefl 0)

end Volume

namespace TableFile

def Spans (file : TableFile) (number : Nat) (path : String) (offset : Nat) : Prop :=
  path = file.path ∧ number * file.pageSize ≤ offset ∧
    offset < number * file.pageSize + file.pageSize

section

variable {file : TableFile} {volume : Volume} {page : Page}

theorem overwritten_withPage (length : page.encode.length = file.pageSize)
    (present : page.id.number < file.pageCount volume) :
    volume.Overwritten (file.withPage volume page) (file.Spans page.id.number) := by
  have inside := inside_of_lt length present
  constructor
  · rfl
  · intro path
    unfold withPage Volume.write
    dsimp only
    rw [Std.ExtTreeMap.contains_insert]
    cases same : compare file.path path == .eq with
    | false => rfl
    | true =>
        have equal : file.path = path :=
          Std.LawfulEqCmp.compare_eq_iff_eq.mp (eq_of_beq same)
        subst equal
        rw [Volume.contains_of_length_pos]
        · rfl
        · refine Nat.pos_of_ne_zero (fun empty => ?_)
          unfold pageCount PagedFile.pageCount pages at present
          rw [empty, Nat.zero_div] at present
          exact Nat.not_lt_zero _ present
  · intro path
    by_cases same : path = file.path
    · subst same
      unfold withPage
      rw [Volume.bytes_write, PagedFile.length_splice_inside inside]
    · unfold withPage
      rw [Volume.bytes_write_of_ne (Ne.symm same)]
  · intro path offset outside
    by_cases same : path = file.path
    · subst same
      unfold withPage
      rw [Volume.bytes_write]
      rw [PagedFile.getElem?_splice]
      by_cases before : offset < page.id.number * file.pageSize
      · rw [if_pos before, if_pos (by omega)]
      · rw [if_neg before, if_neg]
        rw [length]
        exact fun within => outside ⟨rfl, Nat.not_lt.mp before, within⟩
    · unfold withPage
      rw [Volume.bytes_write_of_ne (Ne.symm same)]

theorem read_withPage (volume : Volume) (length : page.encode.length = file.pageSize) :
    (file.pages (file.withPage volume page)).read page.id.number file.pageSize =
      .ok page.encode := by
  have back : ((file.pages volume).put page.id.number page.encode).read page.id.number
      file.pageSize = .ok page.encode := PagedFile.read_put_self length
  unfold withPage
  rw [pages_write]
  exact back

theorem read_of_overwritten {next : Volume} {places : String → Nat → Prop}
    (overwritten : volume.Overwritten next places) {number : Nat}
    (apart : ∀ offset, file.Spans number file.path offset → ¬places file.path offset) :
    (file.pages next).read number file.pageSize =
      (file.pages volume).read number file.pageSize := by
  have slice : ((next.bytes file.path).drop (number * file.pageSize)).take file.pageSize =
      ((volume.bytes file.path).drop (number * file.pageSize)).take file.pageSize := by
    apply List.ext_getElem?
    intro index
    rw [List.getElem?_take, List.getElem?_take, List.getElem?_drop, List.getElem?_drop]
    by_cases within : index < file.pageSize
    · rw [if_pos within, if_pos within]
      apply overwritten.bytes
      exact apart _ ⟨rfl, Nat.le_add_right _ _, Nat.add_lt_add_left within _⟩
    · rw [if_neg within, if_neg within]
  unfold PagedFile.read PagedFile.checkLength pages
  dsimp only
  rw [overwritten.lengths, slice]

end

/-! ### Adding pages -/

section

variable {file : TableFile} {volume : Volume}

private theorem volume_appendEmptyPage (file : TableFile) (volume : Volume) :
    (file.appendEmptyPage volume).1 = volume.write file.path (PagedFile.splice
      (volume.bytes file.path) (file.pageCount volume * file.pageSize)
      (Page.emptyImage file.pageSize)) := rfl

theorem pageCount_appendEmptyPage (positive : 0 < file.pageSize) :
    file.pageCount (file.appendEmptyPage volume).1 = file.pageCount volume + 1 := by
  have sized : 0 < (file.pages volume).pageSize := positive
  have fits : (Page.emptyImage file.pageSize).length = (file.pages volume).pageSize :=
    List.length_replicate
  have added := PagedFile.pageCount_put_pageCount sized fits
  unfold pageCount
  rw [volume_appendEmptyPage, pages_write]
  exact added

theorem pageCount_appendEmptyPage_le (file : TableFile) (volume : Volume) :
    file.pageCount (file.appendEmptyPage volume).1 ≤ file.pageCount volume + 1 := by
  rcases Nat.eq_zero_or_pos file.pageSize with none | positive
  · unfold pageCount PagedFile.pageCount pages
    dsimp only
    rw [none, Nat.div_zero]
    exact Nat.zero_le _
  · exact Nat.le_of_eq (pageCount_appendEmptyPage positive)

theorem toldCount_of_lt (few : file.pageCount volume < UInt32.size) :
    file.toldCount volume = file.pageCount volume :=
  Nat.mod_eq_of_lt few

private theorem image_appendEmptyPage_of_lt {number : Nat}
    (present : number < file.pageCount volume) :
    file.image (file.appendEmptyPage volume).1 number = file.image volume number := by
  unfold image
  rw [volume_appendEmptyPage, Volume.bytes_write]
  apply PagedFile.read_splice_of_apart (end_le_of_lt_pageCount present)
  left
  rw [← Nat.succ_mul]
  exact Nat.mul_le_mul_right file.pageSize present

private theorem image_appendEmptyPage_self :
    file.image (file.appendEmptyPage volume).1 (file.pageCount volume) =
      Page.emptyImage file.pageSize := by
  have size : (Page.emptyImage file.pageSize).length = file.pageSize := List.length_replicate
  have back := PagedFile.read_splice_self (volume.bytes file.path) (Page.emptyImage file.pageSize)
    (file.pageCount volume * file.pageSize)
  unfold image
  rw [volume_appendEmptyPage, Volume.bytes_write]
  rwa [size] at back

end

/-- A page that could be read before another was added is read as before. A page that can be read
only since then has no rows. -/
theorem readPage_appendEmptyPage (file : TableFile) (volume : Volume) (page : PageId) :
    file.readPage (file.appendEmptyPage volume).1 page = file.readPage volume page ∨
      (∀ content, file.readPage volume page ≠ .ok content) ∧
        ∀ content, file.readPage (file.appendEmptyPage volume).1 page = .ok content →
          ∀ slot, content.row? slot = none := by
  rcases Nat.eq_zero_or_pos file.pageSize with none | positive
  · left
    have nothing (anywhere : Volume) : file.pageCount anywhere = 0 := by
      unfold pageCount PagedFile.pageCount pages
      rw [none, Nat.div_zero]
    apply readPage_congr
    · rw [nothing, nothing]
    · intro present
      rw [nothing] at present
      exact absurd present (Nat.not_lt_zero _)
  · have counts : file.pageCount (file.appendEmptyPage volume).1 = file.pageCount volume + 1 :=
      pageCount_appendEmptyPage positive
    by_cases added : page.table = file.id ∧ page.number = file.pageCount volume
    · right
      constructor
      · intro content read
        have present := (lt_pageCount_of_readPage read).2
        rw [added.2] at present
        exact Nat.lt_irrefl _ present
      · intro content read
        have present := (lt_pageCount_of_readPage read).2
        rw [readPage_of_lt added.1 present, added.2, image_appendEmptyPage_self] at read
        exact Page.row?_of_decode_emptyImage read
    · left
      by_cases mine : page.table = file.id
      · have apart : page.number ≠ file.pageCount volume := fun same => added ⟨mine, same⟩
        apply readPage_congr
        · rw [counts]
          omega
        · intro present
          exact image_appendEmptyPage_of_lt present
      · unfold readPage
        rw [if_neg (fun both => mine both.1), if_neg (fun both => mine both.1)]

theorem pos_of_checkGeometry {schema : Schema} {pageSize : Nat}
    (checked : checkGeometry schema pageSize = .ok ()) :
    Geometry.slotCount pageSize schema.width ≠ 0 ∧ 0 < pageSize := by
  have roomy : Geometry.slotCount pageSize schema.width ≠ 0 := by
    intro none
    unfold checkGeometry at checked
    rw [if_pos none] at checked
    split at checked <;> cases checked
  refine ⟨roomy, Nat.pos_of_ne_zero (fun none => roomy ?_)⟩
  unfold Geometry.slotCount
  rw [none, Nat.zero_mul, Nat.zero_div]

theorem readPage_appended {file : TableFile}
    (checked : checkGeometry file.schema file.pageSize = .ok ()) (volume : Volume) :
    ∃ content, file.readPage (file.appendEmptyPage volume).1
        (file.pageId (file.pageCount volume)) = .ok content ∧ content.firstVacant? = some 0 := by
  obtain ⟨roomy, positive⟩ := pos_of_checkGeometry checked
  have present : (file.pageId (file.pageCount volume)).number <
      file.pageCount (file.appendEmptyPage volume).1 := by
    rw [pageCount_appendEmptyPage positive]
    exact Nat.lt_succ_self _
  rw [readPage_of_lt rfl present]
  change ∃ content, Page.decode _ _ (file.image _ (file.pageCount volume)) = .ok content ∧ _
  rw [image_appendEmptyPage_self]
  exact Page.exists_decode_emptyImage _ roomy

end TableFile

end RowStore
