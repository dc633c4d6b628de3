import RowStore.Proofs.Database.Setup
import RowStore.Proofs.TableFile

/-!
Contents: the fields that are stored under each record, and changes to them. The contents of a
database are what can be read from its volume.
-/

set_option autoImplicit false

namespace RowStore

/-! ### Changes -/

/-- A change under one record: the fields stored there, or none if the row is deleted. -/
structure Change where
  record : RecordId
  fields : Option (List Field)
  deriving DecidableEq, Repr

namespace Change

def apply (change : Change) (contents : RecordId → Option (List Field)) :
    RecordId → Option (List Field) :=
  fun record => if record = change.record then change.fields else contents record

/-- The change as it is read back from the disk. -/
def cut (change : Change) : Change :=
  { change with fields := change.fields.map (fun fields => fields.map Field.stored) }

end Change

def replay (contents : RecordId → Option (List Field)) (changes : List Change) :
    RecordId → Option (List Field) :=
  changes.foldl (fun current change => change.apply current) contents

theorem replay_append (contents : RecordId → Option (List Field)) (changes more : List Change) :
    replay contents (changes ++ more) = replay (replay contents changes) more := by
  unfold replay
  rw [List.foldl_append]

theorem replay_append_singleton (contents : RecordId → Option (List Field)) (changes : List Change)
    (change : Change) (record : RecordId) :
    replay contents (changes ++ [change]) record =
      if record = change.record then change.fields else replay contents changes record := by
  rw [replay_append]
  rfl

theorem replay_congr {contents others : RecordId → Option (List Field)} {record : RecordId}
    (same : contents record = others record) (changes : List Change) :
    replay contents changes record = replay others changes record := by
  unfold replay
  induction changes generalizing contents others with
  | nil => exact same
  | cons change rest ih =>
      apply ih
      change (if record = change.record then change.fields else contents record) =
        if record = change.record then change.fields else others record
      rw [same]

theorem replay_of_untouched {contents : RecordId → Option (List Field)} {changes : List Change}
    {record : RecordId} (untouched : ∀ change ∈ changes, change.record ≠ record) :
    replay contents changes record = contents record := by
  unfold replay
  induction changes generalizing contents with
  | nil => rfl
  | cons change rest ih =>
      rw [List.foldl_cons, ih (fun later member => untouched later (List.mem_cons_of_mem _ member))]
      exact if_neg (Ne.symm (untouched change List.mem_cons_self))

theorem cut_replay (contents : RecordId → Option (List Field)) (changes : List Change)
    (record : RecordId) :
    (replay contents changes record).map (fun fields => fields.map Field.stored) =
      replay (fun other => (contents other).map (fun fields => fields.map Field.stored))
        (changes.map Change.cut) record := by
  unfold replay
  induction changes generalizing contents with
  | nil => rfl
  | cons change rest ih =>
      rw [List.foldl_cons, ih, List.map_cons, List.foldl_cons]
      apply replay_congr
      by_cases same : record = change.record
      · have sameCut : record = change.cut.record := same
        simp only [Change.apply, if_pos same, if_pos sameCut]
        rfl
      · have apartCut : record ≠ change.cut.record := same
        simp only [Change.apply, if_neg same, if_neg apartCut]

/-! ### Contents of the disk -/

namespace Database

/-- The page as it is on the volume, if it can be read from there. -/
def diskPage? (database : Database) (page : PageId) : Option Page :=
  match database.catalog.file page.table with
  | .ok file => (file.readPage database.volume page).toOption
  | .error _ => none

def stored (database : Database) (record : RecordId) : Option (List Field) :=
  match database.diskPage? record.page with
  | some page => (page.row? record.slot).map Row.fields
  | none => none

theorem diskPage?_of_file {database : Database} {page : PageId} {file : TableFile}
    (registered : database.catalog.file page.table = .ok file) :
    database.diskPage? page = (file.readPage database.volume page).toOption := by
  unfold diskPage?
  rw [registered]

theorem diskPage?_of_error {database : Database} {page : PageId} {fault : Fault}
    (missing : database.catalog.file page.table = .error fault) :
    database.diskPage? page = none := by
  unfold diskPage?
  rw [missing]

theorem diskPage?_eq_some {database : Database} {page : PageId} {content : Page} :
    database.diskPage? page = some content ↔
      ∃ file, database.catalog.file page.table = .ok file ∧
        file.readPage database.volume page = .ok content := by
  unfold diskPage?
  cases registered : database.catalog.file page.table with
  | error fault => simp
  | ok file =>
      cases read : file.readPage database.volume page with
      | error fault => simp [Except.toOption, read]
      | ok found => simp [Except.toOption, read]

theorem lt_pageCount_of_diskPage? {database : Database} {page : PageId} {content : Page}
    {file : TableFile} (registered : database.catalog.file page.table = .ok file)
    (onDisk : database.diskPage? page = some content) :
    page.number < file.pageCount database.volume := by
  obtain ⟨own, registeredOwn, read⟩ := diskPage?_eq_some.mp onDisk
  cases registered.symm.trans registeredOwn
  exact (TableFile.lt_pageCount_of_readPage read).2

theorem stored_congr {database next : Database} {page : PageId}
    (same : next.diskPage? page = database.diskPage? page) (slot : Nat) :
    next.stored ⟨page, slot⟩ = database.stored ⟨page, slot⟩ := by
  unfold stored
  rw [same]

theorem stored_of_diskPage? {database : Database} {page : PageId} {content : Page}
    (onDisk : database.diskPage? page = some content) (slot : Nat) :
    database.stored ⟨page, slot⟩ = (content.row? slot).map Row.fields := by
  unfold stored
  rw [onDisk]

theorem stored_cut (database : Database) (record : RecordId) :
    (database.stored record).map (fun fields => fields.map Field.stored) =
      database.stored record := by
  unfold stored
  split
  · rename_i content onDisk
    obtain ⟨file, _, read⟩ := diskPage?_eq_some.mp onDisk
    obtain ⟨_, _, _, _, _, same⟩ := TableFile.wellFormed_of_readPage read
    have rows := content.row?_cut record.slot
    rw [same] at rows
    cases found : content.row? record.slot with
    | none => rfl
    | some row =>
        rw [found] at rows
        have fields := congrArg Row.fields (Option.some.inj rows)
        exact congrArg some fields.symm
  · rfl

end Database

end RowStore
