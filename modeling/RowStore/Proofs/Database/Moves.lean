import RowStore.Proofs.Database.Custody
import RowStore.Proofs.Database.Opening
import RowStore.Proofs.Lock.Exclusion
import RowStore.Proofs.Page.Editing

/-!
Moves: the smallest things that a database does to its pool, its locks, its catalog and its disk.
Whatever is asked of a database is a row of moves, so that what each move keeps is kept by all that
can be asked.
-/

set_option autoImplicit false

namespace RowStore

inductive Move where
  | lock (action : LockAction)
  | note (transaction : TransactionId) (page : PageId)
  /-- A page is dropped to make room. -/
  | evict (page : PageId)
  /-- A page is read into a new frame. -/
  | arrive (content : Page)
  | edit (frame : Nat) (edits : List PageEdit)
  | grow (file : TableFile)
  /-- A page with changes is written back. -/
  | save (page : PageId)
  /-- A page is dropped on purpose. -/
  | drop (page : PageId)
  | forget (transaction : TransactionId)
  | clear
  | recatalogue (catalog : Catalog)
  | reopen (path : String) (opening : Volume.Opening)

def Pool.receive (pool : Pool) (content : Page) : Pool :=
  { pool with
    resident := pool.resident.insert content.id pool.nextFrame
    frames := pool.frames.insert pool.nextFrame content
    nextFrame := pool.nextFrame + 1 }

namespace Database

/-- When a database makes a move, and what comes of it. -/
inductive Moves (database : Database) : Move → Database → Prop where
  | lock (action : LockAction) :
      Moves database (.lock action) (database.setLocks (database.pool.locks.perform action))
  | note {transaction : TransactionId} {page : PageId}
      (alone : database.pool.locks.lockMode? transaction page = some .exclusive) :
      Moves database (.note transaction page) (database.noteAccess transaction page .write)
  | evict {page : PageId} {frame : Nat} {content : Page}
      (found : database.pool.residentFrame? page = some (frame, content))
      (clean : content.owner = none) (free : database.pool.locks.exclusiveHolder? page = none) :
      Moves database (.evict page) { database with
        pool := { database.pool.discard page with evictions := database.pool.evictions + 1 } }
  | arrive {content : Page} (absent : database.pool.residentFrame? content.id = none)
      (onDisk : database.diskPage? content.id = some content) :
      Moves database (.arrive content) { database with pool := database.pool.receive content }
  | edit {frame : Nat} {content : Page} {edits : List PageEdit}
      (held : database.pool.frames[frame]? = some content) (typed : ∀ edit ∈ edits, edit.Typed) :
      Moves database (.edit frame edits) (database.setFrame frame (content.editEach edits))
  | grow (file : TableFile) : Moves database (.grow file) (database.appendEmptyPage file).1
  | save {page : PageId} {frame : Nat} {content : Page} {file : TableFile}
      (found : database.pool.residentFrame? page = some (frame, content))
      (dirty : content.isDirty = true) (registered : database.catalog.file page.table = .ok file)
      (length : content.encode.length = file.pageSize) :
      Moves database (.save page)
        ((database.putImage file page.number content.encode).setFrame frame (content.mark none))
  | drop (page : PageId) : Moves database (.drop page) (database.discard page)
  | forget (transaction : TransactionId) :
      Moves database (.forget transaction)
        { database with pool := database.pool.forgetWrites transaction }
  | clear (saved : ∀ page, database.pool.unsaved? page = none) :
      Moves database .clear { database with pool := database.pool.discardAll }
  | recatalogue {catalog : Catalog} (sound : catalog.Sound database.numbering) :
      Moves database (.recatalogue catalog) { database with catalog := catalog }
  | reopen {path : String} {opening : Volume.Opening} {volume : Volume}
      (opens : database.volume.openFile path opening = .ok volume) :
      Moves database (.reopen path opening) { database with volume := volume }

/-! ### What every move keeps -/

structure Steady (database : Database) : Prop where
  catalog : database.catalog.Sound database.numbering
  exclusive : database.pool.locks.IsExclusive
  sound : database.pool.Sound
  frames : ∀ (frame : Nat) content, database.pool.frames[frame]? = some content →
    frame < database.pool.nextFrame ∧ content.WellFormed

section

variable {database next : Database} {move : Move}

theorem wellFormed_of_diskPage? {page : PageId} {content : Page}
    (onDisk : database.diskPage? page = some content) :
    content.WellFormed ∧ content.id = page ∧ content.owner = none := by
  obtain ⟨file, _, read⟩ := diskPage?_eq_some.mp onDisk
  obtain ⟨wellFormed, id, _, _, clean, _⟩ := TableFile.wellFormed_of_readPage read
  exact ⟨wellFormed, id, clean⟩

theorem frames_setFrame {pool : Pool} {frame : Nat} {content changed : Page}
    (frames : ∀ (other : Nat) found, pool.frames[other]? = some found →
      other < pool.nextFrame ∧ found.WellFormed)
    (held : pool.frames[frame]? = some content) (wellFormed : changed.WellFormed) (other : Nat)
    (found : Page) (foundOther : (pool.setFrame frame changed).frames[other]? = some found) :
    other < pool.nextFrame ∧ found.WellFormed := by
  simp only [Pool.setFrame, Std.ExtTreeMap.getElem?_insert,
    Std.LawfulEqCmp.compare_eq_iff_eq] at foundOther
  split at foundOther
  · rename_i same
    cases foundOther
    rw [← same]
    exact ⟨(frames frame content held).1, wellFormed⟩
  · exact frames other found foundOther

private theorem Steady.arrive (steady : database.Steady) {content : Page}
    (onDisk : database.diskPage? content.id = some content) :
    Steady { database with pool := database.pool.receive content } := by
  refine ⟨steady.catalog, steady.exclusive, ?_, ?_⟩
  · intro page frame resident
    change (database.pool.resident.insert content.id database.pool.nextFrame)[page]? =
      some frame at resident
    by_cases same : page = content.id
    · subst same
      rw [Std.ExtTreeMap.getElem?_insert_self] at resident
      cases resident
      exact ⟨Nat.lt_succ_self _, content, Std.ExtTreeMap.getElem?_insert_self, rfl⟩
    · rw [Pool.resident_insert_of_ne same] at resident
      obtain ⟨bound, old, held, id⟩ := steady.sound page frame resident
      refine ⟨Nat.lt_succ_of_lt bound, old, ?_, id⟩
      simp only [Pool.receive, Std.ExtTreeMap.getElem?_insert, Std.LawfulEqCmp.compare_eq_iff_eq,
        if_neg (Nat.ne_of_gt bound)]
      exact held
  · intro frame found held
    simp only [Pool.receive, Std.ExtTreeMap.getElem?_insert,
      Std.LawfulEqCmp.compare_eq_iff_eq] at held
    split at held
    · rename_i same
      cases held
      rw [← same]
      exact ⟨Nat.lt_succ_self _, (wellFormed_of_diskPage? onDisk).1⟩
    · obtain ⟨bound, wellFormed⟩ := steady.frames frame found held
      exact ⟨Nat.lt_succ_of_lt bound, wellFormed⟩

theorem Moves.steady (moves : database.Moves move next) (steady : database.Steady) :
    next.Steady := by
  cases moves with
  | lock action =>
      exact ⟨steady.catalog, steady.exclusive.perform action, steady.sound, steady.frames⟩
  | note _ => exact ⟨steady.catalog, steady.exclusive, steady.sound, steady.frames⟩
  | evict _ _ _ =>
      exact ⟨steady.catalog, steady.exclusive, steady.sound.discard _, steady.frames⟩
  | arrive _ onDisk => exact steady.arrive onDisk
  | edit held typed =>
      obtain ⟨wellFormed, succeeds⟩ := (steady.frames _ _ held).2.editEach typed
      exact ⟨steady.catalog, steady.exclusive, steady.sound.setFrame_of_held held succeeds.id,
        frames_setFrame steady.frames held wellFormed⟩
  | grow file => exact ⟨steady.catalog, steady.exclusive, steady.sound, steady.frames⟩
  | save found _ _ _ =>
      have held := (Pool.residentFrame?_eq_some.mp found).2
      exact ⟨steady.catalog, steady.exclusive, steady.sound.setFrame_of_held held rfl,
        frames_setFrame steady.frames held ((steady.frames _ _ held).2.mark none)⟩
  | drop page => exact ⟨steady.catalog, steady.exclusive, steady.sound.discard page, steady.frames⟩
  | forget _ => exact ⟨steady.catalog, steady.exclusive, steady.sound, steady.frames⟩
  | clear _ =>
      refine ⟨steady.catalog, steady.exclusive, ?_, steady.frames⟩
      intro page frame resident
      simp [Pool.discardAll] at resident
  | recatalogue sound => exact ⟨sound, steady.exclusive, steady.sound, steady.frames⟩
  | reopen _ => exact ⟨steady.catalog, steady.exclusive, steady.sound, steady.frames⟩

end

end Database

/-! ### Pages in the pool -/

def Move.reframes (upcoming : Nat) (page : PageId) (found : Option (Nat × Page)) :
    Move → Option (Nat × Page)
  | .evict gone => if page = gone then none else found
  | .drop gone => if page = gone then none else found
  | .arrive content => if page = content.id then some (upcoming, content) else found
  | .edit frame edits => found.map (fun entry =>
      (entry.1, if frame = entry.1 then entry.2.editEach edits else entry.2))
  | .save saved => found.map (fun entry =>
      (entry.1, if page = saved then entry.2.mark none else entry.2))
  | .clear => none
  | _ => found

namespace Database

section

variable {database next : Database} {move : Move}

theorem Moves.residentFrame? (moves : database.Moves move next) (steady : database.Steady)
    (page : PageId) :
    next.pool.residentFrame? page =
      move.reframes database.pool.nextFrame page (database.pool.residentFrame? page) := by
  cases moves with
  | evict _ _ _ => exact database.pool.residentFrame?_discard _ page
  | drop gone => exact database.pool.residentFrame?_discard gone page
  | @arrive content _ _ =>
      unfold Move.reframes
      dsimp only
      by_cases same : page = content.id
      · rw [if_pos same, same]
        exact Pool.residentFrame?_eq_some.mpr
          ⟨Std.ExtTreeMap.getElem?_insert_self, Std.ExtTreeMap.getElem?_insert_self⟩
      · rw [if_neg same]
        exact steady.sound.residentFrame?_fresh (Nat.le_refl _) same content _
  | @edit frame content edits held _ =>
      unfold Move.reframes
      dsimp only
      cases found : database.pool.residentFrame? page with
      | none =>
          have absent := steady.sound.resident_eq_none found
          simp [Pool.residentFrame?, setFrame, Pool.setFrame, absent]
      | some entry =>
          have changed := Pool.residentFrame?_setFrame_of_found found frame (content.editEach edits)
          refine changed.trans ?_
          rw [Option.map_some]
          by_cases same : frame = entry.1
          · obtain ⟨own, old⟩ := entry
            cases same
            cases held.symm.trans (Pool.residentFrame?_eq_some.mp found).2
            rfl
          · rw [if_neg same, if_neg same]
  | @save saved frame content file found _ _ _ =>
      unfold Move.reframes
      dsimp only
      refine (steady.sound.residentFrame?_setFrame found (content.mark none) page).trans ?_
      by_cases same : page = saved
      · rw [if_pos same, same, found, Option.map_some, if_pos rfl]
      · rw [if_neg same]
        cases database.pool.residentFrame? page with
        | none => rfl
        | some entry => rw [Option.map_some, if_neg same]
  | clear _ => simp [Move.reframes, Pool.residentFrame?, Pool.discardAll]
  | _ => rfl

theorem Moves.residentFrame?_edit {frame : Nat} {edits : List PageEdit} {page : PageId}
    {content : Page} (moves : database.Moves (.edit frame edits) next) (steady : database.Steady)
    (found : database.pool.residentFrame? page = some (frame, content)) :
    next.pool.residentFrame? page = some (frame, content.editEach edits) := by
  rw [moves.residentFrame? steady page, found]
  exact congrArg (fun page => some (frame, page)) (if_pos rfl)

inductive Resides (database : Database) (page : PageId) (frame : Nat) (content : Page) :
    Move → Prop where
  | stays {move : Move}
      (before : database.pool.residentFrame? page = some (frame, content))
      (unsaved : move ≠ .save page) : Resides database page frame content move
  | arrives (onDisk : database.diskPage? page = some content) :
      Resides database page frame content (.arrive content)
  | edited {old : Page} {edits : List PageEdit}
      (before : database.pool.residentFrame? page = some (frame, old))
      (typed : ∀ edit ∈ edits, edit.Typed) (changed : content = old.editEach edits) :
      Resides database page frame content (.edit frame edits)
  | saved {old : Page} (before : database.pool.residentFrame? page = some (frame, old))
      (cleaned : content = old.mark none) : Resides database page frame content (.save page)

theorem Moves.resides (moves : database.Moves move next) (steady : database.Steady)
    {page : PageId} {frame : Nat} {content : Page}
    (found : next.pool.residentFrame? page = some (frame, content)) :
    database.Resides page frame content move := by
  rw [moves.residentFrame? steady page] at found
  unfold Move.reframes at found
  cases moves with
  | evict _ _ _ =>
      dsimp only at found
      split at found
      · cases found
      · exact .stays found nofun
  | drop gone =>
      dsimp only at found
      split at found
      · cases found
      · exact .stays found nofun
  | arrive _ onDisk =>
      dsimp only at found
      split at found
      · rename_i same
        cases found
        rw [← same] at onDisk
        exact .arrives onDisk
      · exact .stays found nofun
  | @edit edited _ edits _ typed =>
      dsimp only at found
      obtain ⟨⟨own, old⟩, before, same⟩ := Option.map_eq_some_iff.mp found
      by_cases here : edited = own
      · subst here
        dsimp only at same
        rw [if_pos rfl] at same
        cases same
        exact .edited before typed rfl
      · dsimp only at same
        rw [if_neg here] at same
        cases same
        exact .stays before nofun
  | @save saved _ _ _ _ _ _ _ =>
      dsimp only at found
      obtain ⟨⟨own, old⟩, before, same⟩ := Option.map_eq_some_iff.mp found
      by_cases here : page = saved
      · subst here
        dsimp only at same
        rw [if_pos rfl] at same
        cases same
        exact .saved before rfl
      · dsimp only at same
        rw [if_neg here] at same
        cases same
        exact .stays before (fun same => here (Move.save.inj same).symm)
  | clear _ => cases found
  | _ => exact .stays found nofun

theorem Moves.getElem?_frames (moves : database.Moves move next) (steady : database.Steady)
    {frame : Nat} {content : Page} (held : database.pool.frames[frame]? = some content) :
    ∃ changed, next.pool.frames[frame]? = some changed ∧
      (changed = content ∨ changed = content.mark none ∨
        ∃ edits, move = .edit frame edits ∧ changed = content.editEach edits) := by
  cases moves with
  | arrive _ _ =>
      refine ⟨content, ?_, .inl rfl⟩
      have bound := (steady.frames frame content held).1
      simp only [Pool.receive, Std.ExtTreeMap.getElem?_insert, Std.LawfulEqCmp.compare_eq_iff_eq,
        if_neg (Nat.ne_of_gt bound)]
      exact held
  | @edit other old edits heldOther _ =>
      simp only [setFrame, Pool.setFrame, Std.ExtTreeMap.getElem?_insert,
        Std.LawfulEqCmp.compare_eq_iff_eq]
      by_cases same : other = frame
      · subst same
        cases held.symm.trans heldOther
        exact ⟨_, if_pos rfl, .inr (.inr ⟨edits, rfl, rfl⟩)⟩
      · exact ⟨content, (if_neg same).trans held, .inl rfl⟩
  | @save saved other old file found _ _ _ =>
      simp only [setFrame, Pool.setFrame, Std.ExtTreeMap.getElem?_insert,
        Std.LawfulEqCmp.compare_eq_iff_eq]
      by_cases same : other = frame
      · subst same
        cases held.symm.trans (Pool.residentFrame?_eq_some.mp found).2
        exact ⟨_, if_pos rfl, .inr (.inl rfl)⟩
      · exact ⟨content, (if_neg same).trans held, .inl rfl⟩
  | _ => exact ⟨content, held, .inl rfl⟩

/-! ### Locks and notes -/

theorem Moves.mem_writtenBy (moves : database.Moves move next) {transaction : TransactionId}
    {page : PageId} (member : page ∈ next.pool.writtenBy transaction) :
    page ∈ database.pool.writtenBy transaction ∨
      move = .note transaction page ∧
        database.pool.locks.lockMode? transaction page = some .exclusive := by
  cases moves with
  | note alone =>
      rcases Pool.mem_writtenBy_noteWrite.mp member with ⟨rfl, rfl⟩ | before
      · exact .inr ⟨rfl, alone⟩
      · exact .inl before
  | forget _ => exact .inl (Pool.mem_writtenBy_forgetWrites.mp member).2
  | _ => exact .inl member

theorem Moves.keeps_writtenBy (moves : database.Moves move next) {transaction : TransactionId}
    (goesOn : move ≠ .forget transaction) {page : PageId}
    (member : page ∈ database.pool.writtenBy transaction) :
    page ∈ next.pool.writtenBy transaction := by
  cases moves with
  | note _ => exact Pool.mem_writtenBy_noteWrite.mpr (.inr member)
  | forget other =>
      refine Pool.mem_writtenBy_forgetWrites.mpr ⟨?_, member⟩
      intro same
      exact goesOn (by rw [same])
  | _ => exact member

theorem Moves.locks (moves : database.Moves move next) :
    next.pool.locks = match move with
      | .lock action => database.pool.locks.perform action
      | _ => database.pool.locks := by
  cases moves <;> rfl

theorem Moves.numbering (moves : database.Moves move next) :
    next.numbering = database.numbering := by
  cases moves <;> rfl

theorem Moves.catalog (moves : database.Moves move next) :
    next.catalog = match move with
      | .recatalogue catalog => catalog
      | _ => database.catalog := by
  cases moves <;> rfl

end

end Database

/-! ### Pages of the disk -/

namespace TableFile

/-- The bytes of a page, if the file reaches the end of it. -/
def image? (file : TableFile) (volume : Volume) (number : Nat) : Option (List UInt8) :=
  ((file.pages volume).read number file.pageSize).toOption

section

variable {file : TableFile} {volume : Volume} {number : Nat} {bytes data : List UInt8}

theorem image?_eq_some : file.image? volume number = some bytes ↔
    (file.pages volume).read number file.pageSize = .ok bytes := by
  unfold image?
  cases (file.pages volume).read number file.pageSize with
  | error fault => simp [Except.toOption]
  | ok found => simp [Except.toOption]

theorem readPage_eq_ok {page : PageId} {content : Page} :
    file.readPage volume page = .ok content ↔
      (page.table = file.id ∧ page.number < file.pageCount volume) ∧
        ∃ bytes, file.image? volume page.number = some bytes ∧
          Page.decode page file.schema bytes = .ok content := by
  unfold readPage
  split
  · rename_i present
    cases image : (file.pages volume).read page.number file.pageSize with
    | error fault => simp [bind, Except.bind, image?, image, Except.toOption]
    | ok bytes => simp [bind, Except.bind, image?, image, Except.toOption, present]
  · rename_i absent
    simp [absent]

theorem image?_write_of_ne {path : String} (different : path ≠ file.path) (volume : Volume)
    (bytes : List UInt8) (number : Nat) :
    file.image? (volume.write path bytes) number = file.image? volume number := by
  unfold image?
  rw [pages_write_of_ne different]

theorem image?_put_self (length : data.length = file.pageSize) (volume : Volume) (number : Nat) :
    file.image? (volume.write file.path ((file.pages volume).put number data).bytes) number =
      some data := by
  have back : ((file.pages volume).put number data).read number file.pageSize = .ok data :=
    PagedFile.read_put_self length
  refine image?_eq_some.mpr ?_
  rw [pages_write]
  exact back

theorem image?_put_of_ne (length : data.length ≤ file.pageSize) {other : Nat}
    (different : other ≠ number) (onDisk : file.image? volume other = some bytes) :
    file.image? (volume.write file.path ((file.pages volume).put number data).bytes) other =
      some bytes := by
  have kept : ((file.pages volume).put number data).read other file.pageSize = .ok bytes :=
    PagedFile.read_put_of_ne length different (image?_eq_some.mp onDisk)
  refine image?_eq_some.mpr ?_
  rw [pages_write]
  exact kept

theorem image?_appendEmptyPage (onDisk : file.image? volume number = some bytes) :
    file.image? (file.appendEmptyPage volume).1 number = some bytes := by
  have length : (Page.emptyImage file.pageSize).length = file.pageSize := List.length_replicate
  by_cases added : number = file.pageCount volume
  · -- Only pages without bytes are there already.
    subst added
    obtain ⟨size, rfl⟩ := PagedFile.eq_nil_of_read_pageCount (image?_eq_some.mp onDisk)
    change file.pageSize = 0 at size
    have empty : Page.emptyImage file.pageSize = [] := by
      rw [size]
      rfl
    exact (image?_put_self length volume _).trans (congrArg some empty)
  · exact image?_put_of_ne (Nat.le_of_eq length) added onDisk

end

end TableFile

/-- The identifier of the file names no other one. -/
def Catalog.Names (catalog : Catalog) (file : TableFile) : Prop :=
  ∀ other, catalog.file file.id = .ok other → other = file

instance (catalog : Catalog) (file : TableFile) : Decidable (catalog.Names file) :=
  match found : catalog.file file.id with
  | .ok other =>
      decidable_of_iff (other = file) (by
        unfold Catalog.Names
        rw [found]
        simp)
  | .error _ => isTrue (by
      unfold Catalog.Names
      rw [found]
      simp)

theorem Catalog.Sound.eq_of_path {catalog : Catalog} {numbering : String → TableId}
    (sound : catalog.Sound numbering) {file other : TableFile} {table : TableId}
    (numbered : numbering file.path = file.id) (names : catalog.Names file)
    (registered : catalog.file table = .ok other) (samePath : other.path = file.path) :
    table = file.id ∧ other = file := by
  have same : table = file.id := by
    rw [← numbered, ← samePath]
    exact (sound.file registered).2.symm
  refine ⟨same, names other ?_⟩
  rw [← same]
  exact registered

namespace Database

/-- The file is the only one at its path that the move has to do with, and the move does not empty
it. -/
structure Respects (database : Database) (file : TableFile) (move : Move) : Prop where
  numbered : database.numbering file.path = file.id
  names : (∃ page, move = .save page) ∨ (∃ content, move = .arrive content) →
    database.catalog.Names file
  grows : ∀ other, move = .grow other → other.path = file.path → other = file
  reopens : ∀ path opening, move = .reopen path opening → path = file.path → opening = .keeping

/-- The bytes that the page has once its changes are written back. -/
def due? (database : Database) (file : TableFile) (number : Nat) : Option (List UInt8) :=
  match database.pool.unsaved? (file.pageId number) with
  | some content => some content.encode
  | none => file.image? database.volume number

section

variable {database next : Database} {move : Move} {file : TableFile} {number : Nat}
  {bytes : List UInt8}

theorem Moves.image? (moves : database.Moves move next) (steady : database.Steady)
    (respects : database.Respects file move) (unwritten : move ≠ .save (file.pageId number))
    (onDisk : file.image? database.volume number = some bytes) :
    file.image? next.volume number = some bytes := by
  cases moves with
  | grow other =>
      change file.image? (other.appendEmptyPage database.volume).1 number = some bytes
      by_cases samePath : other.path = file.path
      · rw [respects.grows other rfl samePath]
        exact TableFile.image?_appendEmptyPage onDisk
      · exact (TableFile.image?_write_of_ne samePath database.volume _ number).trans onDisk
  | @save page frame content other found dirty registered length =>
      change file.image? (database.volume.write other.path
        ((other.pages database.volume).put page.number content.encode).bytes) number = some bytes
      by_cases samePath : other.path = file.path
      · obtain ⟨table, rfl⟩ := steady.catalog.eq_of_path respects.numbered
          (respects.names (.inl ⟨page, rfl⟩)) registered samePath
        refine TableFile.image?_put_of_ne (Nat.le_of_eq length) ?_ onDisk
        intro same
        apply unwritten
        rw [TableFile.pageId, Move.save.injEq, PageId.mk.injEq]
        exact ⟨table, same.symm⟩
      · exact (TableFile.image?_write_of_ne samePath database.volume _ number).trans onDisk
  | @reopen path opening volume opens =>
      by_cases samePath : path = file.path
      · cases respects.reopens path opening rfl samePath
        rw [(Volume.admits_of_openFile opens).openFile] at opens
        cases opens
        refine TableFile.image?_eq_some.mpr ?_
        rw [samePath, TableFile.pages_write]
        exact TableFile.image?_eq_some.mp onDisk
      · rw [(Volume.admits_of_openFile opens).openFile] at opens
        cases opens
        exact (TableFile.image?_write_of_ne samePath database.volume _ number).trans onDisk
  | _ => exact onDisk

/-- A page that was written back is on the disk as it was in the pool. -/
theorem Moves.image?_save (moves : database.Moves (.save (file.pageId number)) next)
    (names : database.catalog.Names file) {content : Page}
    (unsaved : database.pool.unsaved? (file.pageId number) = some content) :
    file.image? next.volume number = some content.encode := by
  obtain ⟨⟨frame, found⟩, _⟩ := Pool.unsaved?_eq_some.mp unsaved
  cases moves with
  | save foundAgain _ registered length =>
      cases found.symm.trans foundAgain
      cases names _ registered
      exact TableFile.image?_put_self length database.volume number

theorem Moves.unsaved? (moves : database.Moves move next) (steady : database.Steady)
    {page : PageId} (kept : move ≠ .drop page) (unwritten : move ≠ .save page)
    (unedited : ∀ frame edits content, move = .edit frame edits →
      database.pool.residentFrame? page ≠ some (frame, content)) :
    next.pool.unsaved? page = database.pool.unsaved? page := by
  have after := moves.residentFrame? steady page
  unfold Pool.unsaved?
  rw [after]
  unfold Move.reframes
  cases moves with
  | @evict gone frame content found clean _ =>
      dsimp only
      split
      · rename_i same
        rw [same, found, Option.map_some, Option.filter_some, Page.isDirty, clean]
        rfl
      · rfl
  | @arrive content absent onDisk =>
      dsimp only
      split
      · rename_i same
        rw [same, absent, Option.map_some, Option.filter_some, Page.isDirty,
          (wellFormed_of_diskPage? onDisk).2.2]
        rfl
      · rfl
  | @edit frame old edits _ _ =>
      dsimp only
      cases found : database.pool.residentFrame? page with
      | none => rfl
      | some entry =>
          have apart : frame ≠ entry.1 := by
            intro same
            subst same
            exact unedited entry.1 edits entry.2 rfl found
          rw [Option.map_some, if_neg apart]
  | @save saved _ _ _ _ _ _ _ =>
      dsimp only
      have apart : page ≠ saved := fun same => unwritten (congrArg Move.save same.symm)
      cases database.pool.residentFrame? page with
      | none => rfl
      | some entry => rw [Option.map_some, if_neg apart]
  | drop gone =>
      dsimp only
      rw [if_neg (fun same => kept (congrArg Move.drop same.symm))]
  | clear saved => exact (saved page).symm
  | _ => rfl

theorem Moves.unsaved?_save {page : PageId} (moves : database.Moves (.save page) next)
    (steady : database.Steady) :
    (∃ content, database.pool.unsaved? page = some content) ∧ next.pool.unsaved? page = none := by
  have after := moves.residentFrame? steady page
  cases moves with
  | save found dirty _ _ =>
      refine ⟨⟨_, Pool.unsaved?_eq_some.mpr ⟨⟨_, found⟩, dirty⟩⟩, ?_⟩
      unfold Pool.unsaved?
      rw [after, found]
      simp [Move.reframes, Page.isDirty, Page.mark]

/-- A page is going to have the same bytes, whether its changes are written back or not, unless
they are dropped or changed again. -/
theorem Moves.due? (moves : database.Moves move next) (steady : database.Steady)
    (respects : database.Respects file move) (kept : move ≠ .drop (file.pageId number))
    (unedited : ∀ frame edits content, move = .edit frame edits →
      database.pool.residentFrame? (file.pageId number) ≠ some (frame, content))
    (due : database.due? file number = some bytes) : next.due? file number = some bytes := by
  by_cases saved : move = .save (file.pageId number)
  · subst saved
    obtain ⟨⟨content, unsaved⟩, clean⟩ := moves.unsaved?_save steady
    have names := respects.names (.inl ⟨_, rfl⟩)
    unfold Database.due? at due ⊢
    rw [unsaved] at due
    rw [clean]
    exact (moves.image?_save names unsaved).trans due
  · have same := moves.unsaved? steady kept saved unedited
    unfold Database.due? at due ⊢
    rw [same]
    cases unsaved : database.pool.unsaved? (file.pageId number) with
    | some content =>
        rw [unsaved] at due
        exact due
    | none =>
        rw [unsaved] at due
        exact moves.image? steady respects saved due

end

end Database

/-! ### Rows of moves -/

inductive Move.Saves (pages : List PageId) : Move → Prop where
  | save {page : PageId} (member : page ∈ pages) : Saves pages (.save page)

inductive Path (allowed : Database → Move → Prop) : Database → Database → Prop where
  | here (database : Database) : Path allowed database database
  | on {database next last : Database} {move : Move} (moves : database.Moves move next)
      (permitted : allowed database move) (rest : Path allowed next last) :
      Path allowed database last

namespace Path

section

variable {allowed others : Database → Move → Prop} {database next last : Database}

theorem single {move : Move} (moves : database.Moves move next)
    (permitted : allowed database move) : Path allowed database next :=
  .on moves permitted (.here next)

theorem trans (first : Path allowed database next) (second : Path allowed next last) :
    Path allowed database last := by
  induction first with
  | here _ => exact second
  | on moves permitted _ ih => exact .on moves permitted (ih second)

theorem mono (path : Path allowed database last)
    (within : ∀ database move, allowed database move → others database move) :
    Path others database last := by
  induction path with
  | here database => exact .here database
  | on moves permitted _ ih => exact .on moves (within _ _ permitted) ih

theorem steady (path : Path allowed database last) (steady : database.Steady) : last.Steady := by
  induction path with
  | here _ => exact steady
  | on moves _ _ ih => exact ih (moves.steady steady)

theorem keeps (kept : Database → Prop) (path : Path allowed database last)
    (steady : database.Steady)
    (step : ∀ database next move, database.Steady → kept database → allowed database move →
      database.Moves move next → kept next) (start : kept database) : kept last := by
  induction path with
  | here _ => exact start
  | on moves permitted _ ih =>
      exact ih (moves.steady steady) (step _ _ _ steady start permitted moves)

theorem saves {pages : List PageId} (path : Path (fun _ => Move.Saves pages) database last)
    (within : ∀ current page, page ∈ pages → allowed current (.save page)) :
    Path allowed database last := by
  apply path.mono
  intro current move saves
  cases saves with
  | save member => exact within current _ member

end

end Path

/-! ### Writing back and ending -/

namespace Database

section

variable {database next : Database}

theorem path_flushPage (steady : database.Steady) {page : PageId}
    (flushes : database.flushPage page = .ok next) :
    Path (fun _ => Move.Saves [page]) database next ∧ next.pool.unsaved? page = none := by
  cases unsaved : database.pool.unsaved? page with
  | none =>
      rw [flushPage_of_saved unsaved] at flushes
      cases flushes
      exact ⟨.here _, unsaved⟩
  | some content =>
      obtain ⟨⟨frame, found⟩, dirty⟩ := Pool.unsaved?_eq_some.mp unsaved
      obtain ⟨file, registered, length, rfl⟩ := flushPage_cases steady.sound found dirty flushes
      have moves := Moves.save found dirty registered length
      exact ⟨.single moves (.save List.mem_cons_self), (moves.unsaved?_save steady).2⟩

theorem saved_of_path {pages : List PageId}
    (path : Path (fun _ => Move.Saves pages) database next)
    (steady : database.Steady) {page : PageId} (saved : database.pool.unsaved? page = none) :
    next.pool.unsaved? page = none := by
  refine path.keeps (fun database => database.pool.unsaved? page = none) steady ?_ saved
  intro database next move steady saved saves moves
  have unwritten : move ≠ .save page := by
    intro same
    subst same
    obtain ⟨⟨content, unsaved⟩, _⟩ := moves.unsaved?_save steady
    rw [unsaved] at saved
    cases saved
  have same : next.pool.unsaved? page = database.pool.unsaved? page := by
    cases saves with
    | save _ => exact moves.unsaved? steady nofun unwritten nofun
  exact same.trans saved

/-- Pages are written back one after another. None of them has changes when all went well. -/
theorem path_flushEach (steady : database.Steady) (pages : List PageId) :
    Path (fun _ => Move.Saves pages) database (database.flushEach pages).1 ∧
      ((database.flushEach pages).2 = .ok () →
        ∀ page ∈ pages, (database.flushEach pages).1.pool.unsaved? page = none) := by
  induction pages generalizing database with
  | nil => exact ⟨.here _, fun _ _ impossible => absurd impossible List.not_mem_nil⟩
  | cons first rest ih =>
      unfold flushEach
      cases flushes : database.flushPage first with
      | error fault =>
          refine ⟨.here _, ?_⟩
          intro impossible
          cases impossible
      | ok middle =>
          obtain ⟨start, saved⟩ := path_flushPage steady flushes
          have steadyMiddle := start.steady steady
          obtain ⟨path, savedRest⟩ := ih steadyMiddle
          have onwards : Path (fun _ => Move.Saves (first :: rest)) middle
              (middle.flushEach rest).1 :=
            path.saves fun _ page member => .save (List.mem_cons_of_mem first member)
          have before : Path (fun _ => Move.Saves (first :: rest)) database middle := by
            apply start.saves
            intro _ page member
            cases List.mem_singleton.mp member
            exact .save List.mem_cons_self
          refine ⟨before.trans onwards, ?_⟩
          intro succeeds page member
          rcases List.mem_cons.mp member with rfl | later
          · exact saved_of_path onwards steadyMiddle saved
          · exact savedRest succeeds page later

theorem path_discardEach (database : Database) (pages : List PageId) :
    Path (fun _ move => ∃ page ∈ pages, move = .drop page) database
      { database with pool := database.pool.discardEach pages } := by
  induction pages generalizing database with
  | nil => exact .here _
  | cons first rest ih =>
      refine .on (.drop first) ⟨first, List.mem_cons_self, rfl⟩
        ((ih (database.discard first)).mono ?_)
      intro _ _ drops
      obtain ⟨page, member, rfl⟩ := drops
      exact ⟨page, List.mem_cons_of_mem first member, rfl⟩

inductive Ending (database : Database) (transaction : TransactionId) (current : Database) :
    Move → Prop where
  | drop {page : PageId} (member : page ∈ database.pool.writtenBy transaction) :
      Ending database transaction current (.drop page)
  | forget : Ending database transaction current (.forget transaction)
  | releaseAll (forgotten : ∀ page, page ∉ current.pool.writtenBy transaction)
      (same : current.pool.locks = database.pool.locks) :
      Ending database transaction current (.lock (.releaseAll transaction))

theorem path_dismiss (database : Database) (transaction : TransactionId) :
    Path (database.Ending transaction) database (database.dismiss transaction) := by
  have drops : Path (database.Ending transaction) database { database with
      pool := database.pool.discardEach (database.pool.writtenBy transaction) } := by
    apply (database.path_discardEach (database.pool.writtenBy transaction)).mono
    intro _ _ drops
    obtain ⟨page, member, rfl⟩ := drops
    exact .drop member
  have kept := (database.pool.discardEach_kept (database.pool.writtenBy transaction)).1
  refine drops.trans (.on (.forget transaction) .forget
    (.single (.lock (.releaseAll transaction)) (.releaseAll ?_ kept)))
  intro page member
  exact (Pool.mem_writtenBy_forgetWrites.mp member).1 rfl

end

end Database

end RowStore
