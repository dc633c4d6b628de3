import RowStore.Proofs.Database.Moves

/-!
Strides: moves, and what comes of a database when others go on between the steps of a chore, or when
the disk gives up. A page may be written back from a frame that has left the pool by then, the pool
may be emptied of pages that were changed meanwhile, and a page may be written in part.
-/

set_option autoImplicit false

namespace RowStore

inductive Stride where
  | move (move : Move)
  /-- A page is written back from a frame that is not the one in the pool. -/
  | copy (page : PageId) (frame : Nat)
  /-- The disk gives up while a page is written back. -/
  | tear (page : PageId) (frame : Nat) (written : Nat)
  /-- The disk gives up while a page is added. -/
  | fray (file : TableFile)
  /-- The pool is emptied, whatever is in it. -/
  | empty

namespace Stride

def WritesTo (page : PageId) : Stride → Prop
  | .move (.save written) => written = page
  | .copy written _ => written = page
  | .tear written _ _ => written = page
  | _ => False

def Transfers : Stride → Prop
  | .move (.save _) => True
  | .move (.arrive _) => True
  | .copy _ _ => True
  | .tear _ _ _ => True
  | _ => False

def reframes (upcoming : Nat) (page : PageId) (found : Option (Nat × Page)) :
    Stride → Option (Nat × Page)
  | .move made => made.reframes upcoming page found
  | .empty => none
  | _ => found

end Stride

namespace Database

/-- When a database makes a stride, and what comes of it. -/
inductive Strides (database : Database) : Stride → Database → Prop where
  | move {move : Move} {next : Database} (moves : database.Moves move next) :
      Strides database (.move move) next
  | copy {page : PageId} {frame : Nat} {content : Page} {file : TableFile}
      (held : database.pool.frames[frame]? = some content) (own : content.id = page)
      (stale : database.pool.resident[page]? ≠ some frame) (dirty : content.isDirty = true)
      (registered : database.catalog.file page.table = .ok file)
      (length : content.encode.length = file.pageSize) :
      Strides database (.copy page frame)
        ((database.putImage file page.number content.encode).setFrame frame (content.mark none))
  | tear {page : PageId} {frame : Nat} {content : Page} {file : TableFile} (written : Nat)
      (held : database.pool.frames[frame]? = some content) (own : content.id = page)
      (dirty : content.isDirty = true)
      (registered : database.catalog.file page.table = .ok file)
      (length : content.encode.length = file.pageSize) :
      Strides database (.tear page frame written)
        { database with volume := file.writeInPart database.volume content written }
  | fray (file : TableFile) (written : Nat) :
      Strides database (.fray file) (database.appendInPart file written)
  | empty : Strides database .empty { database with pool := database.pool.discardAll }

section

variable {database next : Database} {stride : Stride}

theorem Strides.steady (strides : database.Strides stride next) (steady : database.Steady) :
    next.Steady := by
  cases strides with
  | move moves => exact moves.steady steady
  | copy held _ _ _ _ _ =>
      exact ⟨steady.catalog, steady.exclusive, steady.sound.setFrame_of_held held rfl,
        frames_setFrame steady.frames held ((steady.frames _ _ held).2.mark none)⟩
  | tear _ _ _ _ _ _ => exact ⟨steady.catalog, steady.exclusive, steady.sound, steady.frames⟩
  | fray _ _ => exact ⟨steady.catalog, steady.exclusive, steady.sound, steady.frames⟩
  | empty =>
      refine ⟨steady.catalog, steady.exclusive, ?_, steady.frames⟩
      intro page frame resident
      simp [Pool.discardAll] at resident

/-! ### Pages in the pool -/

theorem Strides.residentFrame? (strides : database.Strides stride next)
    (steady : database.Steady) (page : PageId) :
    next.pool.residentFrame? page =
      stride.reframes database.pool.nextFrame page (database.pool.residentFrame? page) := by
  cases strides with
  | move moves => exact moves.residentFrame? steady page
  | @copy copied frame content file held own stale _ _ _ =>
      change (database.pool.setFrame frame (content.mark none)).residentFrame? page =
        database.pool.residentFrame? page
      cases found : database.pool.residentFrame? page with
      | none =>
          have absent := steady.sound.resident_eq_none found
          simp [Pool.residentFrame?, Pool.setFrame, absent]
      | some entry =>
          refine (Pool.residentFrame?_setFrame_of_found found frame (content.mark none)).trans ?_
          rw [if_neg]
          rintro rfl
          obtain ⟨resident, heldHere⟩ := Pool.residentFrame?_eq_some.mp found
          cases held.symm.trans heldHere
          rw [steady.sound.id_eq found] at own
          exact stale (own ▸ resident)
  | empty => simp [Stride.reframes, Pool.residentFrame?, Pool.discardAll]
  | _ => rfl

theorem Strides.getElem?_frames (strides : database.Strides stride next)
    (steady : database.Steady) {frame : Nat} {content : Page}
    (held : database.pool.frames[frame]? = some content) :
    ∃ changed, next.pool.frames[frame]? = some changed ∧
      (changed = content ∨ changed = content.mark none ∨
        ∃ edits, stride = .move (.edit frame edits) ∧ changed = content.editEach edits) := by
  cases strides with
  | move moves =>
      obtain ⟨changed, heldNow, how⟩ := moves.getElem?_frames steady held
      refine ⟨changed, heldNow, how.imp_right (Or.imp_right ?_)⟩
      rintro ⟨edits, rfl, rfl⟩
      exact ⟨edits, rfl, rfl⟩
  | @copy page copied old file heldOld _ _ _ _ _ =>
      by_cases same : copied = frame
      · subst same
        cases held.symm.trans heldOld
        exact ⟨content.mark none, Std.ExtTreeMap.getElem?_insert_self, .inr (.inl rfl)⟩
      · refine ⟨content, ?_, .inl rfl⟩
        simp only [setFrame, Pool.setFrame, Std.ExtTreeMap.getElem?_insert,
          Std.LawfulEqCmp.compare_eq_iff_eq, if_neg same]
        exact held
  | _ => exact ⟨content, held, .inl rfl⟩

theorem Strides.id_frames (strides : database.Strides stride next) (steady : database.Steady)
    {frame : Nat} {content : Page} (held : database.pool.frames[frame]? = some content) :
    ∃ changed, next.pool.frames[frame]? = some changed ∧ changed.id = content.id := by
  obtain ⟨changed, heldNext, rfl | rfl | ⟨edits, rfl, rfl⟩⟩ := strides.getElem?_frames steady held
  · exact ⟨changed, heldNext, rfl⟩
  · exact ⟨content.mark none, heldNext, rfl⟩
  · cases strides with
    | move moves =>
        cases moves with
        | edit heldAgain typed =>
            exact ⟨_, heldNext, ((steady.frames frame content held).2.editEach typed).2.id⟩

theorem Strides.mem_writtenBy (strides : database.Strides stride next)
    {transaction : TransactionId} {page : PageId}
    (member : page ∈ next.pool.writtenBy transaction) :
    page ∈ database.pool.writtenBy transaction ∨ stride = .move (.note transaction page) ∧
      database.pool.locks.lockMode? transaction page = some .exclusive := by
  cases strides with
  | move moves =>
      rcases moves.mem_writtenBy member with before | ⟨rfl, alone⟩
      · exact .inl before
      · exact .inr ⟨rfl, alone⟩
  | _ => exact .inl member

theorem Strides.keeps_writtenBy (strides : database.Strides stride next)
    {transaction : TransactionId} (goesOn : stride ≠ .move (.forget transaction)) {page : PageId}
    (member : page ∈ database.pool.writtenBy transaction) :
    page ∈ next.pool.writtenBy transaction := by
  cases strides with
  | move moves => exact moves.keeps_writtenBy (fun same => goesOn (congrArg _ same)) member
  | _ => exact member

theorem Strides.locks (strides : database.Strides stride next) :
    next.pool.locks = match stride with
      | .move (.lock action) => database.pool.locks.perform action
      | _ => database.pool.locks := by
  cases strides with
  | move moves =>
      have locks := moves.locks
      cases moves <;> exact locks
  | _ => rfl

theorem Strides.numbering (strides : database.Strides stride next) :
    next.numbering = database.numbering := by
  cases strides with
  | move moves => exact moves.numbering
  | _ => rfl

theorem Strides.catalog (strides : database.Strides stride next) :
    next.catalog = match stride with
      | .move (.recatalogue catalog) => catalog
      | _ => database.catalog := by
  cases strides with
  | move moves =>
      have catalog := moves.catalog
      cases moves <;> exact catalog
  | _ => rfl

theorem Strides.unsaved? (strides : database.Strides stride next) (steady : database.Steady)
    {page : PageId}
    (kept : stride = .move (.drop page) ∨ stride = .empty → database.pool.unsaved? page = none)
    (unwritten : stride ≠ .move (.save page))
    (unedited : ∀ frame edits content, stride = .move (.edit frame edits) →
      database.pool.residentFrame? page ≠ some (frame, content)) :
    next.pool.unsaved? page = database.pool.unsaved? page := by
  have after := strides.residentFrame? steady page
  cases strides with
  | @move move _ moves =>
      by_cases drops : move = .drop page
      · subst drops
        rw [kept (.inl rfl)]
        exact Pool.unsaved?_of_absent (after.trans (if_pos rfl))
      · exact moves.unsaved? steady drops (fun same => unwritten (congrArg _ same))
          (fun frame edits content same => unedited frame edits content (congrArg _ same))
  | empty =>
      rw [kept (.inr rfl)]
      exact Pool.unsaved?_of_absent after
  | _ => exact congrArg (fun found => (found.map Prod.snd).filter Page.isDirty) after

theorem Strides.saved (strides : database.Strides stride next) (steady : database.Steady)
    {page : PageId}
    (unedited : ∀ frame edits content, stride = .move (.edit frame edits) →
      database.pool.residentFrame? page ≠ some (frame, content))
    (saved : database.pool.unsaved? page = none) : next.pool.unsaved? page = none := by
  refine (strides.unsaved? steady (fun _ => saved) ?_ unedited).trans saved
  rintro rfl
  cases strides with
  | move moves =>
      obtain ⟨⟨content, unsaved⟩, _⟩ := moves.unsaved?_save steady
      cases saved.symm.trans unsaved

theorem Strides.frame_eq (strides : database.Strides stride next) (steady : database.Steady)
    {page : PageId} {frame held : Nat} {content changed : Page}
    (found : database.pool.residentFrame? page = some (frame, content))
    (foundNext : next.pool.residentFrame? page = some (held, changed)) : held = frame := by
  rw [strides.residentFrame? steady page, found] at foundNext
  cases strides with
  | move moves =>
      cases moves with
      | @arrive other absent _ =>
          unfold Stride.reframes Move.reframes at foundNext
          dsimp only at foundNext
          split at foundNext
          · rename_i same
            rw [← same, found] at absent
            cases absent
          · cases foundNext
            rfl
      | evict _ _ _ =>
          unfold Stride.reframes Move.reframes at foundNext
          dsimp only at foundNext
          split at foundNext
          · cases foundNext
          · cases foundNext
            rfl
      | drop _ =>
          unfold Stride.reframes Move.reframes at foundNext
          dsimp only at foundNext
          split at foundNext
          · cases foundNext
          · cases foundNext
            rfl
      | _ => cases foundNext <;> rfl
  | _ => cases foundNext <;> rfl

end

end Database

/-! ### Pages of the disk -/

namespace TableFile

section

variable {file : TableFile} {volume : Volume} {number : Nat} {bytes : List UInt8}

theorem pages_putInPart (file : TableFile) (volume : Volume) (number : Nat) (data : List UInt8)
    (written : Nat) : file.pages (volume.write file.path
      ((file.pages volume).putInPart number data written).bytes) =
        (file.pages volume).putInPart number data written := by
  rw [pages_write]
  unfold PagedFile.putInPart
  split <;> rfl

theorem image?_putInPart_of_ne {data : List UInt8} (length : data.length ≤ file.pageSize)
    {other : Nat} (different : other ≠ number) (written : Nat)
    (onDisk : file.image? volume other = some bytes) :
    file.image? (volume.write file.path
      ((file.pages volume).putInPart number data written).bytes) other = some bytes := by
  have kept : ((file.pages volume).putInPart number data written).read other file.pageSize =
      .ok bytes := PagedFile.read_putInPart_of_ne length different (image?_eq_some.mp onDisk)
  refine image?_eq_some.mpr ?_
  rw [pages_putInPart]
  exact kept

/-- The first bytes of a page that is written in part come before those that were there. -/
theorem image?_writeInPart {content : Page} (length : content.encode.length = file.pageSize)
    (written : Nat) (onDisk : file.image? volume content.id.number = some bytes) :
    file.image? (file.writeInPart volume content written) content.id.number =
      some (content.encode.take written ++ bytes.drop (content.encode.take written).length) := by
  have kept : ((file.pages volume).putInPart content.id.number content.encode written).read
      content.id.number file.pageSize =
        .ok (content.encode.take written ++ bytes.drop (content.encode.take written).length) :=
    PagedFile.read_putInPart (Nat.le_of_eq length) (image?_eq_some.mp onDisk)
  refine image?_eq_some.mpr ?_
  unfold writeInPart
  rw [pages_putInPart]
  exact kept

theorem image?_appendInPart (written : Nat) (onDisk : file.image? volume number = some bytes) :
    file.image? (file.appendInPart volume written) number = some bytes := by
  have length : (Page.emptyImage file.pageSize).length ≤ file.pageSize :=
    Nat.le_of_eq List.length_replicate
  by_cases added : number = file.pageCount volume
  · -- Only pages without bytes are there already.
    subst added
    obtain ⟨size, rfl⟩ := PagedFile.eq_nil_of_read_pageCount (image?_eq_some.mp onDisk)
    change file.pageSize = 0 at size
    have empty : Page.emptyImage file.pageSize = [] := by
      rw [size]
      rfl
    unfold appendInPart PagedFile.putInPart
    rw [empty, List.take_nil]
    split
    · refine image?_eq_some.mpr ?_
      rw [pages_write]
      exact image?_eq_some.mp onDisk
    · exact image?_put_self (List.length_nil.trans size.symm) volume _
  · exact image?_putInPart_of_ne length added written onDisk

end

end TableFile

namespace Database

section

variable {database : Database} {numbering : String → TableId} {file : TableFile} {page : PageId}
  {bytes : List UInt8}

theorem image?_putInPart_of_ne (catalog : database.catalog.Sound numbering)
    (registered : database.catalog.file page.table = .ok file) {data : List UInt8}
    (length : data.length ≤ file.pageSize) (written : Nat) {other : PageId}
    (different : other ≠ page) (onDisk : database.image? other = some bytes) {next : Database}
    (kept : next.catalog = database.catalog)
    (writes : next.volume = database.volume.write file.path
      ((file.pages database.volume).putInPart page.number data written).bytes) :
    next.image? other = some bytes := by
  obtain ⟨own, found, read⟩ := image?_eq_some.mp onDisk
  refine image?_eq_some.mpr ⟨own, by rw [kept]; exact found, ?_⟩
  rw [writes]
  by_cases sameTable : other.table = page.table
  · rw [sameTable, registered] at found
    cases found
    have apart : other.number ≠ page.number := by
      intro sameNumber
      apply different
      rw [PageId.mk.injEq]
      exact ⟨sameTable, sameNumber⟩
    exact TableFile.image?_eq_some.mp (TableFile.image?_putInPart_of_ne length apart written
      (TableFile.image?_eq_some.mpr read))
  · have apart : file.path ≠ own.path := catalog.path_ne registered found (Ne.symm sameTable)
    rw [TableFile.pages_write_of_ne apart]
    exact read

theorem image?_appendInPart (catalog : database.catalog.Sound numbering) {table : TableId}
    (registered : database.catalog.file table = .ok file) (written : Nat)
    (onDisk : database.image? page = some bytes) :
    (database.appendInPart file written).image? page = some bytes := by
  obtain ⟨own, found, read⟩ := image?_eq_some.mp onDisk
  by_cases sameTable : page.table = table
  · rw [sameTable, registered] at found
    cases found
    refine image?_eq_some.mpr ⟨file, ?_, ?_⟩
    · rw [sameTable]
      exact registered
    · exact TableFile.image?_eq_some.mp (TableFile.image?_appendInPart written
        (TableFile.image?_eq_some.mpr read))
  · refine image?_eq_some.mpr ⟨own, found, ?_⟩
    have apart : file.path ≠ own.path := catalog.path_ne registered found (Ne.symm sameTable)
    unfold appendInPart TableFile.appendInPart
    dsimp only
    rw [TableFile.pages_write_of_ne apart]
    exact read

end

/-- The file is the only one at its path that the stride has to do with, and the stride does not
empty it. -/
structure Heeds (database : Database) (file : TableFile) (stride : Stride) : Prop where
  numbered : database.numbering file.path = file.id
  names : stride.Transfers → database.catalog.Names file
  grows : ∀ other, stride = .move (.grow other) ∨ stride = .fray other →
    other.path = file.path → other = file
  reopens : ∀ path opening, stride = .move (.reopen path opening) → path = file.path →
    opening = .keeping

theorem Heeds.respects {database : Database} {file : TableFile} {move : Move}
    (heeds : database.Heeds file (.move move)) : database.Respects file move := by
  refine ⟨heeds.numbered, ?_, ?_, ?_⟩
  · rintro (⟨page, rfl⟩ | ⟨content, rfl⟩)
    · exact heeds.names trivial
    · exact heeds.names trivial
  · rintro other rfl
    exact heeds.grows other (.inl rfl)
  · rintro path opening rfl
    exact heeds.reopens path opening rfl

section

variable {database next : Database} {stride : Stride} {file : TableFile} {number : Nat}
  {bytes : List UInt8}

/-- Bytes that are written for another page, be it of the same file or not, leave the page as it
is. -/
private theorem image?_of_apart (steady : database.Steady) {other : TableFile} {page : PageId}
    (numbered : database.numbering file.path = file.id) (names : database.catalog.Names file)
    (registered : database.catalog.file page.table = .ok other)
    (unwritten : page ≠ file.pageId number) {volume : Volume} {bytesOther : List UInt8}
    (writes : volume = database.volume.write other.path bytesOther)
    (same : other = file → page.number ≠ number → file.image? volume number = some bytes)
    (onDisk : file.image? database.volume number = some bytes) :
    file.image? volume number = some bytes := by
  by_cases samePath : other.path = file.path
  · obtain ⟨table, rfl⟩ := steady.catalog.eq_of_path numbered names registered samePath
    apply same rfl
    intro sameNumber
    apply unwritten
    rw [TableFile.pageId, ← table, ← sameNumber]
  · rw [writes]
    exact (TableFile.image?_write_of_ne samePath database.volume _ number).trans onDisk

theorem Strides.image? (strides : database.Strides stride next) (steady : database.Steady)
    (heeds : database.Heeds file stride) (unwritten : ¬stride.WritesTo (file.pageId number))
    (onDisk : file.image? database.volume number = some bytes) :
    file.image? next.volume number = some bytes := by
  cases strides with
  | move moves =>
      refine moves.image? steady heeds.respects ?_ onDisk
      rintro rfl
      exact unwritten rfl
  | @copy page frame content other held own stale dirty registered length =>
      refine image?_of_apart steady heeds.numbered (heeds.names trivial) registered unwritten
        rfl ?_ onDisk
      rintro rfl different
      exact TableFile.image?_put_of_ne (Nat.le_of_eq length) (Ne.symm different) onDisk
  | @tear page frame content other written held own dirty registered length =>
      refine image?_of_apart steady heeds.numbered (heeds.names trivial) registered unwritten
        rfl ?_ onDisk
      rintro rfl different
      rw [← own] at different
      exact TableFile.image?_putInPart_of_ne (Nat.le_of_eq length) (Ne.symm different) written
        onDisk
  | fray other written =>
      by_cases samePath : other.path = file.path
      · cases heeds.grows other (.inr rfl) samePath
        exact TableFile.image?_appendInPart written onDisk
      · exact (TableFile.image?_write_of_ne samePath database.volume _ number).trans onDisk
  | empty => exact onDisk

/-- A page is going to have the same bytes, whether its changes are written back or not, unless
they are dropped or changed again, or an older copy is written over it. -/
theorem Strides.due? (strides : database.Strides stride next) (steady : database.Steady)
    (heeds : database.Heeds file stride)
    (kept : stride = .move (.drop (file.pageId number)) ∨ stride = .empty →
      database.pool.unsaved? (file.pageId number) = none)
    (unedited : ∀ frame edits content, stride = .move (.edit frame edits) →
      database.pool.residentFrame? (file.pageId number) ≠ some (frame, content))
    (current : stride.WritesTo (file.pageId number) →
      database.pool.unsaved? (file.pageId number) ≠ none)
    (due : database.due? file number = some bytes) : next.due? file number = some bytes := by
  by_cases saves : stride = .move (.save (file.pageId number))
  · subst saves
    cases strides with
    | move moves => exact moves.due? steady heeds.respects nofun nofun due
  · have same := strides.unsaved? steady kept saves unedited
    unfold Database.due? at due ⊢
    rw [same]
    cases unsaved : database.pool.unsaved? (file.pageId number) with
    | some content =>
        rw [unsaved] at due
        exact due
    | none =>
        rw [unsaved] at due
        exact strides.image? steady heeds (fun writes => current writes unsaved) due

end

end Database

/-! ### Rows of strides -/

inductive Trail (allowed : Database → Stride → Prop) : Database → Database → Prop where
  | here (database : Database) : Trail allowed database database
  | on {database next last : Database} {stride : Stride} (strides : database.Strides stride next)
      (permitted : allowed database stride) (rest : Trail allowed next last) :
      Trail allowed database last

namespace Trail

section

variable {allowed others : Database → Stride → Prop} {database next last : Database}

theorem single {stride : Stride} (strides : database.Strides stride next)
    (permitted : allowed database stride) : Trail allowed database next :=
  .on strides permitted (.here next)

theorem trans (first : Trail allowed database next) (second : Trail allowed next last) :
    Trail allowed database last := by
  induction first with
  | here _ => exact second
  | on strides permitted _ ih => exact .on strides permitted (ih second)

theorem of_path {moves : Database → Move → Prop} (path : Path moves database last)
    (within : ∀ current move, moves current move → allowed current (.move move)) :
    Trail allowed database last := by
  induction path with
  | here database => exact .here database
  | on made permitted _ ih => exact .on (.move made) (within _ _ permitted) ih

theorem steady (trail : Trail allowed database last) (steady : database.Steady) :
    last.Steady := by
  induction trail with
  | here _ => exact steady
  | on strides _ _ ih => exact ih (strides.steady steady)

theorem refine (kept : Database → Prop) (trail : Trail allowed database last)
    (steady : database.Steady)
    (step : ∀ database next stride, database.Steady → kept database → allowed database stride →
      database.Strides stride next → kept next) (start : kept database) :
    Trail (fun current stride => current.Steady ∧ kept current ∧ allowed current stride) database
      last := by
  induction trail with
  | here database => exact .here database
  | on strides permitted _ ih =>
      exact .on strides ⟨steady, start, permitted⟩
        (ih (strides.steady steady) (step _ _ _ steady start permitted strides))

theorem mono (trail : Trail allowed database last)
    (within : ∀ current stride, allowed current stride → others current stride) :
    Trail others database last := by
  induction trail with
  | here database => exact .here database
  | on strides permitted _ ih => exact .on strides (within _ _ permitted) ih

theorem keeps (kept : Database → Prop) (trail : Trail allowed database last)
    (steady : database.Steady)
    (step : ∀ database next stride, database.Steady → kept database → allowed database stride →
      database.Strides stride next → kept next) (start : kept database) : kept last := by
  induction trail with
  | here _ => exact start
  | on strides permitted _ ih =>
      exact ih (strides.steady steady) (step _ _ _ steady start permitted strides)

end

end Trail

end RowStore
