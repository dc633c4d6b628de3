import RowStore.Proofs.Database.Ending
import RowStore.Proofs.Database.Strides
import RowStore.Proofs.Database.TaskMoves

/-!
Fidelity: while tables are neither registered nor forgotten, pages are added to registered files
only, and the disk refuses nothing, every frame can be written where its page is from. A page without
changes is in the pool as it would be read from the disk, but for the ends of its texts, unless a
copy that has left the pool is written over what the disk has.
-/

set_option autoImplicit false

namespace RowStore

/-- The strides of operations on rows and pages, of endings and of writing back: the catalog stays,
pages are added to registered files, and whoever changes a page marks it. -/
inductive Stride.Ordinary (database : Database) : Stride → Prop where
  | lock (action : LockAction) : Ordinary database (.move (.lock action))
  | note (transaction : TransactionId) (page : PageId) :
      Ordinary database (.move (.note transaction page))
  | evict (page : PageId) : Ordinary database (.move (.evict page))
  | arrive (content : Page) : Ordinary database (.move (.arrive content))
  | edit (frame : Nat) (call : PageEdit) (owner : TransactionId) :
      Ordinary database (.move (.edit frame [call, .mark (some owner)]))
  | grow {table : TableId} {file : TableFile} (registered : database.catalog.file table = .ok file) :
      Ordinary database (.move (.grow file))
  | save (page : PageId) : Ordinary database (.move (.save page))
  | copy (page : PageId) (frame : Nat) : Ordinary database (.copy page frame)
  | drop (page : PageId) : Ordinary database (.move (.drop page))
  | forget (transaction : TransactionId) : Ordinary database (.move (.forget transaction))

namespace Page

theorem fields_cut (page : Page) (slot : Nat) :
    (page.cut.row? slot).map Row.fields =
      ((page.row? slot).map Row.fields).map (fun fields => fields.map Field.stored) := by
  rw [row?_cut]
  cases page.row? slot <;> rfl

end Page

namespace Database

/-- Every frame can be written where its page is from, be it the one in the pool or not. -/
def Backed (database : Database) : Prop :=
  ∀ (frame : Nat) content, database.pool.frames[frame]? = some content → database.Backs content

section

variable {database next : Database} {stride : Stride} {page : PageId} {content : Page}

/-! ### What is written -/

private theorem diskPage?_putImage (backed : database.Backed) (steady : database.Steady)
    {frame : Nat} (held : database.pool.frames[frame]? = some content) (own : content.id = page)
    {file : TableFile} (registered : database.catalog.file page.table = .ok file) (other : PageId) :
    ((database.putImage file page.number content.encode).setFrame frame
      (content.mark none)).diskPage? other =
        if other = page then some content.cut else database.diskPage? other := by
  subst own
  obtain ⟨_, registeredOwn, _, _, written⟩ := (backed frame content held).write steady.catalog
  cases registered.symm.trans registeredOwn
  exact written other

/-- Whoever writes a page writes a frame of it that has changes, and all other pages of the disk are
as before. -/
theorem Strides.writes (strides : database.Strides stride next)
    (ordinary : stride.Ordinary database) (steady : database.Steady) (backed : database.Backed)
    (writes : stride.WritesTo page) :
    ∃ frame content, database.pool.frames[frame]? = some content ∧ content.isDirty = true ∧
      content.id = page ∧
      (stride = .move (.save page) ∧
          database.pool.residentFrame? page = some (frame, content) ∨
        stride = .copy page frame ∧ database.pool.resident[page]? ≠ some frame) ∧
      ∀ other, next.diskPage? other =
        if other = page then some content.cut else database.diskPage? other := by
  cases ordinary with
  | save saved =>
      obtain rfl : saved = page := writes
      cases strides with
      | move moves =>
          cases moves with
          | save found dirty registered _ =>
              have held := (Pool.residentFrame?_eq_some.mp found).2
              have own := steady.sound.id_eq found
              exact ⟨_, _, held, dirty, own, .inl ⟨rfl, found⟩,
                diskPage?_putImage backed steady held own registered⟩
  | copy copied frame =>
      obtain rfl : copied = page := writes
      cases strides with
      | copy held own stale dirty registered _ =>
          exact ⟨_, _, held, dirty, own, .inr ⟨rfl, stale⟩,
            diskPage?_putImage backed steady held own registered⟩
  | _ => exact writes.elim

theorem Strides.diskPage?_of_some (strides : database.Strides stride next)
    (ordinary : stride.Ordinary database) (steady : database.Steady) (backed : database.Backed)
    (unwritten : ¬stride.WritesTo page) (onDisk : database.diskPage? page = some content) :
    next.diskPage? page = some content := by
  have elsewhere {other : PageId} (writes : stride.WritesTo other) (apart : other ≠ page) :
      next.diskPage? page = some content := by
    obtain ⟨_, _, _, _, _, _, written⟩ := strides.writes ordinary steady backed writes
    rw [written, if_neg apart.symm]
    exact onDisk
  cases ordinary with
  | grow registered =>
      cases strides with
      | move moves =>
          cases moves
          exact diskPage?_appendEmptyPage_of_some steady.catalog registered onDisk
  | save saved => exact elsewhere rfl unwritten
  | copy copied frame => exact elsewhere rfl unwritten
  | _ =>
      cases strides with
      | move moves =>
          cases moves
          exact onDisk

theorem Strides.stored (strides : database.Strides stride next)
    (ordinary : stride.Ordinary database) (steady : database.Steady) (backed : database.Backed)
    {record : RecordId} (unwritten : ¬stride.WritesTo record.page) :
    next.stored record = database.stored record := by
  have elsewhere {other : PageId} (writes : stride.WritesTo other) (apart : other ≠ record.page) :
      next.stored record = database.stored record := by
    obtain ⟨_, _, _, _, _, _, written⟩ := strides.writes ordinary steady backed writes
    exact stored_congr ((written record.page).trans (if_neg apart.symm)) record.slot
  cases ordinary with
  | grow registered =>
      cases strides with
      | move moves =>
          cases moves
          exact congrFun (stored_appendEmptyPage steady.catalog registered) record
  | save saved => exact elsewhere rfl unwritten
  | copy copied frame => exact elsewhere rfl unwritten
  | _ =>
      cases strides with
      | move moves =>
          cases moves
          rfl

/-! ### Frames and their pages -/

private theorem shape_of_strides (strides : database.Strides stride next)
    (ordinary : stride.Ordinary database) (steady : database.Steady) (backed : database.Backed)
    {old : Page} (onDisk : database.diskPage? page = some old) :
    ∃ kept, next.diskPage? page = some kept ∧ kept.schema = old.schema ∧
      kept.size = old.size := by
  by_cases writes : stride.WritesTo page
  · obtain ⟨frame, content, held, _, own, _, written⟩ :=
      strides.writes ordinary steady backed writes
    obtain ⟨_, before, onDiskBefore, schema, size⟩ := backed frame content held
    rw [own, onDisk] at onDiskBefore
    cases onDiskBefore
    exact ⟨content.cut, (written page).trans (if_pos rfl), schema.symm, size.symm⟩
  · exact ⟨old, strides.diskPage?_of_some ordinary steady backed writes onDisk, rfl, rfl⟩

/-- A frame comes with a page of the disk, and what becomes of it then has the same shape. -/
private theorem frame_cases (strides : database.Strides stride next) (steady : database.Steady)
    {frame : Nat} (held : next.pool.frames[frame]? = some content) :
    database.diskPage? content.id = some content ∨
      ∃ old, database.pool.frames[frame]? = some old ∧ old.id = content.id ∧
        old.schema = content.schema ∧ old.size = content.size := by
  have put {written : Nat} {old : Page} (changed : Page)
      (before : database.pool.frames[written]? = some old)
      (same : old.id = changed.id ∧ old.schema = changed.schema ∧ old.size = changed.size)
      (held : (database.pool.setFrame written changed).frames[frame]? = some content) :
      ∃ old, database.pool.frames[frame]? = some old ∧ old.id = content.id ∧
        old.schema = content.schema ∧ old.size = content.size := by
    simp only [Pool.setFrame, Std.ExtTreeMap.getElem?_insert,
      Std.LawfulEqCmp.compare_eq_iff_eq] at held
    split at held
    · rename_i here
      cases held
      exact ⟨old, here ▸ before, same⟩
    · exact ⟨content, held, rfl, rfl, rfl⟩
  cases strides with
  | move moves =>
      cases moves with
      | @arrive arrived absent onDisk =>
          simp only [Pool.receive, Std.ExtTreeMap.getElem?_insert,
            Std.LawfulEqCmp.compare_eq_iff_eq] at held
          split at held
          · cases held
            exact .inl onDisk
          · exact .inr ⟨content, held, rfl, rfl, rfl⟩
      | @edit edited old edits before typed =>
          have succeeds := ((steady.frames edited old before).2.editEach typed).2
          exact .inr (put _ before ⟨succeeds.id.symm, succeeds.schema.symm, succeeds.size.symm⟩ held)
      | @save _ _ old _ found _ _ _ =>
          have before := (Pool.residentFrame?_eq_some.mp found).2
          exact .inr (put (old.mark none) before ⟨rfl, rfl, rfl⟩ held)
      | _ => exact .inr ⟨content, held, rfl, rfl, rfl⟩
  | @copy _ _ old _ before _ _ _ _ _ =>
      exact .inr (put (old.mark none) before ⟨rfl, rfl, rfl⟩ held)
  | _ => exact .inr ⟨content, held, rfl, rfl, rfl⟩

theorem Strides.backed (strides : database.Strides stride next)
    (ordinary : stride.Ordinary database) (steady : database.Steady) (backed : database.Backed) :
    next.Backed := by
  intro frame content held
  have wellFormed := ((strides.steady steady).frames frame content held).2
  rcases frame_cases strides steady held with onDisk | ⟨old, before, id, schema, size⟩
  · exact ⟨wellFormed, shape_of_strides strides ordinary steady backed onDisk⟩
  · obtain ⟨_, disk, onDisk, schemaDisk, sizeDisk⟩ := backed frame old before
    obtain ⟨kept, onDiskNow, schemaKept, sizeKept⟩ :=
      shape_of_strides strides ordinary steady backed onDisk
    rw [id] at onDiskNow
    exact ⟨wellFormed, kept, onDiskNow, (schemaKept.trans schemaDisk).trans schema,
      (sizeKept.trans sizeDisk).trans size⟩

/-! ### Pages without changes -/

/-- If the page is in the pool without changes, it is on the disk, cut. -/
def Reflects (database : Database) (page : PageId) : Prop :=
  ∀ frame content, database.pool.residentFrame? page = some (frame, content) →
    content.owner = none → database.diskPage? page = some content.cut

private theorem unsaved?_ne_none {frame : Nat}
    (found : database.pool.residentFrame? page = some (frame, content))
    (unsaved : database.pool.unsaved? page ≠ none) : content.owner ≠ none := by
  intro clean
  rw [Pool.unsaved?_of_resident found, Page.isDirty, clean] at unsaved
  exact unsaved rfl

/-- A copy of the page that is not the one in the pool does no harm if that one has changes, or if
there is none. -/
theorem Strides.reflects (strides : database.Strides stride next)
    (ordinary : stride.Ordinary database) (steady : database.Steady) (backed : database.Backed)
    (recent : stride.WritesTo page → (database.pool.residentFrame? page).isSome = true →
      database.pool.unsaved? page ≠ none)
    (reflects : database.Reflects page) : next.Reflects page := by
  intro frame content found clean
  have kept (before : database.pool.residentFrame? page = some (frame, content))
      (unwritten : ¬stride.WritesTo page) : next.diskPage? page = some content.cut :=
    strides.diskPage?_of_some ordinary steady backed unwritten (reflects frame content before clean)
  cases strides with
  | @move move _ moves =>
      cases moves.resides steady found with
      | stays before unsaved =>
          refine kept before ?_
          intro writes
          cases move with
          | save saved => exact unsaved (congrArg Move.save writes)
          | _ => exact writes.elim
      | arrives onDisk =>
          obtain ⟨file, _, read⟩ := diskPage?_eq_some.mp onDisk
          have cut := (TableFile.wellFormed_of_readPage read).2.2.2.2.2
          cases moves
          rw [cut]
          exact onDisk
      | edited _ _ changed =>
          cases ordinary with
          | edit _ call owner =>
              rw [changed] at clean
              cases clean
      | saved before cleaned =>
          obtain ⟨own, old, _, _, _, here, written⟩ :=
            (Strides.move moves).writes ordinary steady backed rfl
          rcases here with ⟨_, again⟩ | ⟨impossible, _⟩
          · cases again.symm.trans before
            rw [written, if_pos rfl, cleaned]
            rfl
          · cases impossible
  | @copy copied own old file held same stale dirty registered length =>
      have strides : database.Strides (.copy copied own) _ :=
        .copy held same stale dirty registered length
      have before : database.pool.residentFrame? page = some (frame, content) :=
        (strides.residentFrame? steady page).symm.trans found
      refine kept before ?_
      intro writes
      refine unsaved?_ne_none before (recent writes ?_) clean
      rw [before]
      rfl
  | _ => cases ordinary

/-! ### Rows to come -/

/-- These are the fields under the record, in the pool as far as the disk has room for them, and on
the disk once the page has no changes. -/
structure Promises (database : Database) (record : RecordId) (fields : Option (List Field)) :
    Prop where
  pool : ∀ frame content, database.pool.residentFrame? record.page = some (frame, content) →
    (content.cut.row? record.slot).map Row.fields = fields
  disk : database.pool.unsaved? record.page = none → database.stored record = fields

section

variable {record : RecordId} {fields : Option (List Field)}

private theorem Promises.of_kept (promises : database.Promises record fields)
    (same : next.pool.residentFrame? record.page = database.pool.residentFrame? record.page)
    (stored : next.stored record = database.stored record) : next.Promises record fields := by
  refine ⟨fun frame content found => promises.pool frame content (same.symm.trans found), ?_⟩
  intro saved
  rw [stored]
  refine promises.disk (Eq.trans ?_ saved)
  unfold Pool.unsaved?
  rw [same]

private theorem Promises.of_gone (promises : database.Promises record fields)
    (saved : database.pool.unsaved? record.page = none)
    (gone : next.pool.residentFrame? record.page = none)
    (stored : next.stored record = database.stored record) : next.Promises record fields := by
  refine ⟨?_, fun _ => stored.trans (promises.disk saved)⟩
  intro frame content found
  cases gone.symm.trans found

private theorem Promises.arrive (promises : database.Promises record fields) {frame : Nat}
    (absent : database.pool.residentFrame? record.page = none)
    (onDisk : database.diskPage? record.page = some content)
    (arrives : next.pool.residentFrame? record.page = some (frame, content))
    (stored : next.stored record = database.stored record) : next.Promises record fields := by
  have before := promises.disk (Pool.unsaved?_of_absent absent)
  refine ⟨?_, fun _ => stored.trans before⟩
  intro held found resident
  cases arrives.symm.trans resident
  obtain ⟨file, _, read⟩ := diskPage?_eq_some.mp onDisk
  rw [(TableFile.wellFormed_of_readPage read).2.2.2.2.2, ← before]
  exact (stored_of_diskPage? onDisk record.slot).symm

private theorem Promises.edit (promises : database.Promises record fields) {frame : Nat}
    {call : PageEdit} {owner : TransactionId}
    (resident : database.pool.residentFrame? record.page = some (frame, content))
    (changed : next.pool.residentFrame? record.page =
      some (frame, content.editEach [call, .mark (some owner)]))
    (same : ((content.edit call).row? record.slot).map Row.fields =
      (content.row? record.slot).map Row.fields) : next.Promises record fields := by
  constructor
  · intro held after found
    cases changed.symm.trans found
    change ((content.edit call).cut.row? record.slot).map Row.fields = fields
    rw [Page.fields_cut, same, ← Page.fields_cut]
    exact promises.pool frame content resident
  · intro saved
    rw [Pool.unsaved?_of_resident changed] at saved
    cases saved

private theorem Promises.save (promises : database.Promises record fields) {frame : Nat}
    (resident : database.pool.residentFrame? record.page = some (frame, content))
    (cleaned : next.pool.residentFrame? record.page = some (frame, content.mark none))
    (onDisk : next.diskPage? record.page = some content.cut) : next.Promises record fields := by
  have before := promises.pool frame content resident
  constructor
  · intro held after found
    cases cleaned.symm.trans found
    exact before
  · intro _
    exact (stored_of_diskPage? onDisk record.slot).trans before

/-- What is promised stays so unless the page is dropped with its changes, an older copy is written
over what the disk has, or the record is changed again. -/
theorem Strides.promises (strides : database.Strides stride next)
    (ordinary : stride.Ordinary database) (steady : database.Steady) (backed : database.Backed)
    (kept : stride = .move (.drop record.page) → database.pool.unsaved? record.page = none)
    (recent : stride.WritesTo record.page → database.pool.unsaved? record.page ≠ none)
    (others : ∀ frame call owner content,
      stride = .move (.edit frame [call, .mark (some owner)]) →
        database.pool.residentFrame? record.page = some (frame, content) →
          ((content.edit call).row? record.slot).map Row.fields =
            (content.row? record.slot).map Row.fields)
    (promises : database.Promises record fields) : next.Promises record fields := by
  have after := strides.residentFrame? steady record.page
  have stored (idle : ¬stride.WritesTo record.page) :
      next.stored record = database.stored record := strides.stored ordinary steady backed idle
  cases ordinary with
  | lock _ => exact promises.of_kept after (stored id)
  | note _ _ => exact promises.of_kept after (stored id)
  | forget _ => exact promises.of_kept after (stored id)
  | grow _ => exact promises.of_kept after (stored id)
  | evict page =>
      by_cases same : record.page = page
      · subst same
        cases strides with
        | move moves =>
            cases moves with
            | evict found clean _ =>
                have saved := Pool.unsaved?_of_resident found
                rw [Page.isDirty, clean] at saved
                exact promises.of_gone saved (after.trans (if_pos rfl)) (stored id)
      · exact promises.of_kept (after.trans (if_neg same)) (stored id)
  | drop page =>
      by_cases same : record.page = page
      · subst same
        exact promises.of_gone (kept rfl) (after.trans (if_pos rfl)) (stored id)
      · exact promises.of_kept (after.trans (if_neg same)) (stored id)
  | arrive content =>
      by_cases same : record.page = content.id
      · cases strides with
        | move moves =>
            cases moves with
            | arrive absent onDisk =>
                rw [← same] at absent onDisk
                exact promises.arrive absent onDisk (after.trans (if_pos same)) (stored id)
      · exact promises.of_kept (after.trans (if_neg same)) (stored id)
  | edit frame call owner =>
      cases resident : database.pool.residentFrame? record.page with
      | none =>
          rw [resident] at after
          exact promises.of_kept (after.trans resident.symm) (stored id)
      | some entry =>
          obtain ⟨held, content⟩ := entry
          rw [resident] at after
          by_cases here : frame = held
          · subst here
            have changed := after.trans (congrArg (fun page => some (frame, page)) (if_pos rfl))
            exact promises.edit resident changed (others frame call owner content rfl resident)
          · have same := after.trans (congrArg (fun page => some (held, page)) (if_neg here))
            exact promises.of_kept (same.trans resident.symm) (stored id)
  | save saved =>
      by_cases same : record.page = saved
      · subst same
        obtain ⟨frame, content, _, _, _, ⟨_, resident⟩ | ⟨impossible, _⟩, written⟩ :=
          strides.writes (.save _) steady backed rfl
        · rw [resident] at after
          have cleaned := after.trans (congrArg (fun page => some (frame, page)) (if_pos rfl))
          exact promises.save resident cleaned ((written record.page).trans (if_pos rfl))
        · cases impossible
      · refine promises.of_kept (after.trans ?_) (stored (Ne.symm same))
        unfold Stride.reframes Move.reframes
        dsimp only
        cases database.pool.residentFrame? record.page with
        | none => rfl
        | some entry => exact congrArg (fun page => some (entry.1, page)) (if_neg same)
  | copy page frame =>
      by_cases same : page = record.page
      · refine ⟨fun frame content found =>
          promises.pool frame content (after.symm.trans found), ?_⟩
        intro saved
        refine absurd (Eq.trans ?_ saved) (recent same)
        unfold Pool.unsaved?
        rw [after]
        rfl
      · exact promises.of_kept after (stored same)

end

end

end Database

end RowStore
