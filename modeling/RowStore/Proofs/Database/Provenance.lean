import RowStore.Proofs.Database.Listing
import RowStore.Proofs.Database.TaskMoves

/-!
Provenance: where the rows of a page come from. A row that a page has was stored there by a change,
and its texts may have been cut since, on its way to the disk and back. No move brings a row to a
page in any other way.
-/

set_option autoImplicit false

namespace RowStore

/-! ### Known rows -/

theorem Field.stored_stored (field : Field) : field.stored.stored = field.stored := by
  cases field with
  | int value => rfl
  | string text =>
      unfold Field.stored
      dsimp only
      rw [Utf8.clip_of_length_le (Utf8.length_encode_clip_le _ _)]

/-- A change of the log stored the row, whose texts may have been cut since. -/
def Row.Known (log : List Change) (row : Row) : Prop :=
  ∃ record fields, row.record = some record ∧ ⟨record, some fields⟩ ∈ log ∧
    (row.fields = fields ∨ row.fields = fields.map Field.stored)

theorem Row.Known.cut {log : List Change} {row : Row} (known : row.Known log) :
    row.cut.Known log := by
  obtain ⟨record, fields, recorded, member, same | same⟩ := known
  · exact ⟨record, fields, recorded, member, .inr (congrArg (List.map Field.stored) same)⟩
  · refine ⟨record, fields, recorded, member, .inr ?_⟩
    unfold Row.cut
    dsimp only
    rw [same, List.map_map]
    apply List.map_congr_left
    exact fun field _ => field.stored_stored

theorem Row.Known.mono {log more : List Change} {row : Row} (known : row.Known log)
    (within : ∀ change ∈ log, change ∈ more) : row.Known more := by
  obtain ⟨record, fields, recorded, member, same⟩ := known
  exact ⟨record, fields, recorded, within _ member, same⟩

namespace Page

/-- The log knows every row of the page. -/
def Known (log : List Change) (page : Page) : Prop :=
  ∀ row ∈ page.rows, row.Known log

section

variable {page : Page} {log : List Change}

theorem Known.mono {more : List Change} (known : page.Known log)
    (within : ∀ change ∈ log, change ∈ more) : page.Known more :=
  fun row member => (known row member).mono within

theorem Known.cut (known : page.Known log) : page.cut.Known log := by
  intro row member
  obtain ⟨slot, found⟩ := mem_rows.mp member
  rw [row?_cut] at found
  obtain ⟨old, foundOld, rfl⟩ := Option.map_eq_some_iff.mp found
  exact (known old (mem_rows.mpr ⟨slot, foundOld⟩)).cut

private theorem Known.assign (known : page.Known log) {slot : Nat}
    (inside : slot < page.slots.length) {content : Option Row}
    (knownContent : ∀ row, content = some row → row.Known log) :
    (page.assign slot content).Known log := by
  intro row member
  obtain ⟨other, found⟩ := mem_rows.mp member
  rw [row?_assign inside] at found
  split at found
  · exact knownContent row found
  · exact known row (mem_rows.mpr ⟨other, found⟩)

theorem Known.edit (known : page.Known log) (wellFormed : page.WellFormed) {call : PageEdit}
    (typed : call.Typed) (gains : ∀ change ∈ page.gains call, change ∈ log) :
    (page.edit call).Known log := by
  cases call with
  | insert row =>
      unfold Page.edit
      unfold Page.gains at gains
      dsimp only at gains ⊢
      cases inserts : page.insert row with
      | error fault => exact known
      | ok answer =>
          obtain ⟨next, stored⟩ := answer
          rw [inserts] at gains
          obtain ⟨_, slot, _, inside, same, rfl⟩ := wellFormed.insert typed inserts
          dsimp only at gains ⊢
          refine known.assign inside ?_
          intro row' again
          cases again
          subst same
          exact ⟨⟨page.id, slot⟩, row.fields, rfl, gains _ (by simp [Row.storedAt]), .inl rfl⟩
  | delete row =>
      unfold Page.edit
      dsimp only
      cases deletes : page.delete row with
      | error fault => exact known
      | ok next =>
          obtain ⟨_, slot, _, inside, _, rfl⟩ := wellFormed.delete deletes
          exact known.assign inside nofun
  | deleteSlot slot =>
      unfold Page.edit
      dsimp only
      cases deletes : page.deleteSlot slot with
      | error fault => exact known
      | ok next =>
          obtain ⟨_, inside, _, rfl⟩ := wellFormed.deleteSlot deletes
          exact known.assign inside nofun
  | mark owner => exact known

end

end Page

/-! ### Pages that come to be on the disk -/

namespace TableFile

section

variable {file : TableFile} {volume : Volume} {number : Nat}

theorem image?_of_readPage {content : Page}
    (read : file.readPage volume (file.pageId number) = .ok content) :
    ∃ bytes, file.image? volume number = some bytes ∧
      Page.decode (file.pageId number) file.schema bytes = .ok content :=
  (readPage_eq_ok.mp read).2

theorem isSome_image?_iff : (file.image? volume number).isSome = true ↔
    number * file.pageSize + file.pageSize ≤ (volume.bytes file.path).length := by
  rw [Option.isSome_iff_exists]
  constructor
  · intro found
    obtain ⟨bytes, onDisk⟩ := found
    exact (PagedFile.read_eq_ok.mp (image?_eq_some.mp onDisk)).1
  · intro reaches
    exact ⟨_, image?_eq_some.mpr (PagedFile.read_eq_ok.mpr ⟨reaches, rfl⟩)⟩

theorem isSome_image? (positive : 0 < file.pageSize) :
    (file.image? volume number).isSome = true ↔ number < file.pageCount volume := by
  have sized : 0 < (file.pages volume).pageSize := positive
  exact isSome_image?_iff.trans (PagedFile.lt_pageCount_iff sized).symm

theorem image?_put_eq_none {data : List UInt8} (length : data.length = file.pageSize)
    {other : Nat} (present : (file.image? volume number).isSome = true)
    (absent : file.image? volume other = none) :
    file.image? (volume.write file.path ((file.pages volume).put number data).bytes) other =
      none := by
  have inside : number * file.pageSize + data.length ≤ (volume.bytes file.path).length := by
    rw [length]
    exact isSome_image?_iff.mp present
  have same : ((volume.write file.path ((file.pages volume).put number data).bytes).bytes
      file.path).length = (volume.bytes file.path).length := by
    rw [show (volume.write file.path _).bytes file.path = _ from
      congrArg PagedFile.bytes (file.pages_write volume _)]
    exact PagedFile.length_splice_inside inside
  rw [← Option.not_isSome_iff_eq_none, isSome_image?_iff] at absent ⊢
  rw [same]
  exact absent

theorem image?_appendEmptyPage_new {bytes : List UInt8} (absent : file.image? volume number = none)
    (onDisk : file.image? (file.appendEmptyPage volume).1 number = some bytes) :
    bytes = Page.emptyImage file.pageSize := by
  have positive : 0 < file.pageSize := by
    apply Nat.pos_of_ne_zero
    intro none
    rw [← Option.not_isSome_iff_eq_none, isSome_image?_iff, none] at absent
    exact absent (Nat.zero_le _)
  have behind : ¬number < file.pageCount volume := by
    rw [← isSome_image? positive, absent]
    exact Bool.false_ne_true
  have before : number < file.pageCount volume + 1 := by
    rw [← pageCount_appendEmptyPage positive, ← isSome_image? positive, onDisk]
    rfl
  obtain rfl : number = file.pageCount volume := by omega
  have written : file.image? (file.appendEmptyPage volume).1 (file.pageCount volume) =
      some (Page.emptyImage file.pageSize) := image?_put_self List.length_replicate volume _
  exact Option.some.inj (onDisk.symm.trans written)

end

end TableFile

/-! ### Where the rows of pages come from -/

namespace Database

/-- The log knows every row of the tracked pages of a file, in the pool and on the disk. -/
structure Sourced (database : Database) (file : TableFile) (tracked : Nat → Prop)
    (log : List Change) : Prop where
  pool : ∀ number, tracked number → ∀ frame content,
    database.pool.residentFrame? (file.pageId number) = some (frame, content) →
      content.schema = file.schema ∧ content.Known log
  disk : ∀ number, tracked number → ∀ bytes content,
    file.image? database.volume number = some bytes →
      Page.decode (file.pageId number) file.schema bytes = .ok content → content.Known log
  /-- The tracked pages are on the disk, or at least those of the file that are in the pool, so that
  no page comes to be by writing one back. -/
  scope : (∀ number, tracked number → (file.image? database.volume number).isSome = true) ∨
    ∀ number entry, database.pool.residentFrame? (file.pageId number) = some entry →
      (file.image? database.volume number).isSome = true

theorem Sourced.mono {database : Database} {file : TableFile} {tracked : Nat → Prop}
    {log more : List Change} (sourced : database.Sourced file tracked log)
    (within : ∀ change ∈ log, change ∈ more) : database.Sourced file tracked more where
  pool := fun number own frame content found =>
    ⟨(sourced.pool number own frame content found).1,
      (sourced.pool number own frame content found).2.mono within⟩
  disk := fun number own bytes content onDisk read =>
    (sourced.disk number own bytes content onDisk read).mono within
  scope := sourced.scope

section

variable {database next : Database} {move : Move} {file : TableFile} {tracked : Nat → Prop}
  {log : List Change}

private theorem image?_of_diskPage? (names : database.catalog.Names file) {number : Nat}
    {content : Page} (onDisk : database.diskPage? (file.pageId number) = some content) :
    content.schema = file.schema ∧ ∃ bytes, file.image? database.volume number = some bytes ∧
      Page.decode (file.pageId number) file.schema bytes = .ok content := by
  obtain ⟨other, registered, read⟩ := diskPage?_eq_some.mp onDisk
  cases names other registered
  obtain ⟨_, _, schema, _⟩ := TableFile.wellFormed_of_readPage read
  exact ⟨schema, TableFile.image?_of_readPage read⟩

private theorem Moves.isSome_image? (moves : database.Moves move next) (steady : database.Steady)
    (respects : database.Respects file move) {number : Nat}
    (present : (file.image? database.volume number).isSome = true) :
    (file.image? next.volume number).isSome = true := by
  obtain ⟨bytes, onDisk⟩ := Option.isSome_iff_exists.mp present
  by_cases saved : move = .save (file.pageId number)
  · subst saved
    obtain ⟨⟨content, unsaved⟩, _⟩ := moves.unsaved?_save steady
    rw [moves.image?_save (respects.names (.inl ⟨_, rfl⟩)) unsaved]
    rfl
  · rw [moves.image? steady respects saved onDisk]
    rfl

/-- A page that is in the pool after a move was there before, or is read from the disk. -/
private theorem Sourced.pool_moves (sourced : database.Sourced file tracked log)
    (moves : database.Moves move next) (steady : database.Steady)
    (respects : database.Respects file move)
    (edits : ∀ frame edits number content, move = .edit frame edits → tracked number →
      database.pool.residentFrame? (file.pageId number) = some (frame, content) →
        content.Known log → (content.editEach edits).Known log)
    (number : Nat) (own : tracked number) (frame : Nat) (content : Page)
    (found : next.pool.residentFrame? (file.pageId number) = some (frame, content)) :
    content.schema = file.schema ∧ content.Known log := by
  cases moves.resides steady found with
  | stays before _ => exact sourced.pool number own frame content before
  | arrives onDisk =>
      obtain ⟨schema, bytes, image, read⟩ :=
        image?_of_diskPage? (respects.names (.inr ⟨_, rfl⟩)) onDisk
      exact ⟨schema, sourced.disk number own bytes _ image read⟩
  | @edited old calls before typed changed =>
      obtain ⟨schema, known⟩ := sourced.pool number own frame old before
      have wellFormed := (steady.frames _ _ (Pool.residentFrame?_eq_some.mp before).2).2
      rw [changed]
      exact ⟨(wellFormed.editEach typed).2.schema.trans schema,
        edits frame calls number old rfl own before known⟩
  | @saved old before cleaned =>
      have same := sourced.pool number own frame old before
      rw [cleaned]
      exact same

private theorem Sourced.image?_new (sourced : database.Sourced file tracked log)
    (moves : database.Moves move next) (steady : database.Steady)
    (respects : database.Respects file move) {number : Nat} (own : tracked number)
    (absent : file.image? database.volume number = none) {bytes : List UInt8}
    (onDisk : file.image? next.volume number = some bytes) :
    bytes = Page.emptyImage file.pageSize := by
  have elsewhere {path : String} (different : path ≠ file.path) (data : List UInt8)
      (same : next.volume = database.volume.write path data) : False := by
    rw [same, TableFile.image?_write_of_ne different, absent] at onDisk
    cases onDisk
  cases moves with
  | grow other =>
      by_cases samePath : other.path = file.path
      · rw [respects.grows other rfl samePath] at onDisk
        exact TableFile.image?_appendEmptyPage_new absent onDisk
      · exact (elsewhere samePath _ rfl).elim
  | @save page frame content other found dirty registered length =>
      by_cases samePath : other.path = file.path
      · obtain ⟨table, rfl⟩ := steady.catalog.eq_of_path respects.numbered
          (respects.names (.inl ⟨page, rfl⟩)) registered samePath
        rcases sourced.scope with present | present
        · have here := present number own
          rw [absent] at here
          cases here
        · have saved : page = other.pageId page.number := by
            rw [TableFile.pageId, ← table]
          rw [saved] at found
          have stays := TableFile.image?_put_eq_none length (present page.number _ found) absent
          cases stays.symm.trans onDisk
      · exact (elsewhere samePath _ rfl).elim
  | @reopen path opening volume opens =>
      by_cases samePath : path = file.path
      · cases respects.reopens path opening rfl samePath
        rw [(Volume.admits_of_openFile opens).openFile] at opens
        cases opens
        rw [samePath] at onDisk
        have again := TableFile.image?_eq_some.mp onDisk
        rw [TableFile.pages_write] at again
        cases absent.symm.trans (TableFile.image?_eq_some.mpr again)
      · rw [(Volume.admits_of_openFile opens).openFile] at opens
        cases opens
        exact (elsewhere samePath _ rfl).elim
  | _ => cases absent.symm.trans onDisk

/-- A page of the disk has the rows that it had before a move, or those that it had in the pool, or
none. -/
private theorem Sourced.disk_moves (sourced : database.Sourced file tracked log)
    (moves : database.Moves move next) (steady : database.Steady)
    (respects : database.Respects file move) (number : Nat) (own : tracked number)
    (bytes : List UInt8) (content : Page)
    (onDisk : file.image? next.volume number = some bytes)
    (read : Page.decode (file.pageId number) file.schema bytes = .ok content) :
    content.Known log := by
  cases before : file.image? database.volume number with
  | none =>
      rw [sourced.image?_new moves steady respects own before onDisk] at read
      intro row member
      obtain ⟨slot, found⟩ := Page.mem_rows.mp member
      rw [Page.row?_of_decode_emptyImage read] at found
      cases found
  | some old =>
      by_cases saved : move = .save (file.pageId number)
      · subst saved
        obtain ⟨⟨changed, unsaved⟩, _⟩ := moves.unsaved?_save steady
        cases (moves.image?_save (respects.names (.inl ⟨_, rfl⟩)) unsaved).symm.trans onDisk
        obtain ⟨⟨frame, found⟩, _⟩ := Pool.unsaved?_eq_some.mp unsaved
        obtain ⟨schema, known⟩ := sourced.pool number own frame changed found
        have back := (steady.frames _ _ (Pool.residentFrame?_eq_some.mp found).2).2.decode_encode
        rw [steady.sound.id_eq found, schema] at back
        cases back.symm.trans read
        exact known.cut
      · cases (moves.image? steady respects saved before).symm.trans onDisk
        exact sourced.disk number own _ content before read

theorem Sourced.moves (sourced : database.Sourced file tracked log)
    (moves : database.Moves move next) (steady : database.Steady)
    (respects : database.Respects file move)
    (edits : ∀ frame edits number content, move = .edit frame edits → tracked number →
      database.pool.residentFrame? (file.pageId number) = some (frame, content) →
        content.Known log → (content.editEach edits).Known log) :
    next.Sourced file tracked log where
  pool := sourced.pool_moves moves steady respects edits
  disk := sourced.disk_moves moves steady respects
  scope := by
    rcases sourced.scope with present | present
    · exact .inl fun number own => moves.isSome_image? steady respects (present number own)
    · refine .inr ?_
      intro number entry found
      apply moves.isSome_image? steady respects
      obtain ⟨frame, content⟩ := entry
      cases moves.resides steady found with
      | stays before _ => exact present number _ before
      | arrives onDisk =>
          obtain ⟨_, bytes, image, _⟩ :=
            image?_of_diskPage? (respects.names (.inr ⟨_, rfl⟩)) onDisk
          rw [image]
          rfl
      | edited before _ _ => exact present number _ before
      | saved before _ => exact present number _ before

end

end Database

end RowStore
