import RowStore.Proofs.Database.Opening
import RowStore.Proofs.Database.Samples
import RowStore.Proofs.Engine.Episodes
import RowStore.Proofs.Engine.FullScan

/-!
Tables as maps: whatever transactions did to a new table one after another, a scan of it finds the
rows of a map that was kept beside, and so does a scan in a database that opens its file anew.
-/

set_option autoImplicit false

namespace RowStore

/-! ### New tables -/

namespace Database

variable {database : Database} {file : TableFile}

theorem Created.stored (created : database.Created file) {record : RecordId}
    (mine : record.page.table = file.id) : database.stored record = none := by
  unfold Database.stored
  split
  · rename_i content onDisk
    have registered := created.registered
    rw [← mine] at registered
    have inside := lt_pageCount_of_diskPage? registered onDisk
    rw [created.empty] at inside
    cases inside
  · rfl

theorem Created.mirrors (created : database.Created file) :
    (∅ : Rows).Mirrors file.id database.stored := by
  intro record
  rw [Std.ExtTreeMap.getElem?_empty]
  by_cases mine : record.page.table = file.id
  · rw [if_pos mine, created.stored mine]
  · rw [if_neg mine]
    rfl

theorem Created.readable (created : database.Created file) : database.Readable file.id := by
  intro own registered
  cases created.registered.symm.trans registered
  refine ⟨created.checked, ?_⟩
  intro number inside
  rw [created.empty] at inside
  cases inside

end Database

namespace Engine

theorem settled_new {start : Database} {file : TableFile} (created : start.Created file) :
    (new start).Settled start .empty file.id ∅ := by
  have rest := created.setUp.atRest
  refine ⟨isolated_new created.setUp, ?_, rest.free, rest.awake, created.mirrors⟩
  intro ticket
  exact Std.ExtTreeMap.getElem?_empty

/-! ### What is found in a table -/

def ScansTo (engine : Engine) (file : TableFile) (rows : List Row) : Prop :=
  ∀ (reader : TransactionId) (ticket count : Nat), rows.length < count →
    (engine.submit ticket (.scan (Scan.start file reader) count)).2 =
      some (scannedWhole engine.database file reader rows)

structure Holds (engine : Engine) (file : TableFile) (rows : Rows) : Prop where
  scanned : engine.ScansTo file (rows.listing file.schema)
  /-- The same file, opened as the first table of another database. -/
  reopened : ∀ (settings : Settings) (numbering : String → TableId) (preference : Nat → Nat)
    (fresh : Database) (name : String), settings.pageSize = file.pageSize →
      numbering file.path = file.id →
      Database.new settings numbering preference engine.database.volume = .ok fresh →
        ∃ opened, fresh.openTable file.path file.schema name = (opened, .ok file) ∧
          (new opened).ScansTo file (rows.listing file.schema)
  ascending : (rows.listing file.schema).Pairwise Row.Precedes
  commits : ∀ transaction calls next changed,
    engine.callEach rows transaction file.id calls = some (next, changed) →
      (next.database.commit transaction).2 = .ok ()
  /-- A row is stored under a record that no row has. -/
  inserted : ∀ transaction calls next changed (ticket : Nat) (row stored : Row) (page : PageId),
    engine.callEach rows transaction file.id calls = some (next, changed) → row.Typed →
      (next.submit ticket (.insert transaction file.id row)).2 = some (.inserted stored page) →
        ∃ record, stored.record = some record ∧ record.page.table = file.id ∧
          changed[record]? = none
  /-- A row that is deleted from the table is one of those that it has. -/
  deleted : ∀ transaction calls next changed (ticket : Nat) (row : Row) (page : PageId),
    engine.callEach rows transaction file.id calls = some (next, changed) →
      (next.submit ticket (.delete transaction row)).2 = some (.deleted page) →
        ∃ record, row.record = some record ∧
          (record.page.table = file.id → (changed[record]?).isSome)

section

variable {start : Database} {engine : Engine} {journal : Journal} {file : TableFile} {rows : Rows}

theorem Tracks.inserted {transaction : TransactionId}
    (tracks : engine.Tracks start journal transaction file.id rows) (setUp : start.SetUp)
    {ticket : Nat} {row stored : Row} {page : PageId} (typed : row.Typed)
    (inserts : (engine.submit ticket (.insert transaction file.id row)).2 =
      some (.inserted stored page)) :
    ∃ record, stored.record = some record ∧ record.page.table = file.id ∧
      rows[record]? = none := by
  have transactional : (Operation.insert transaction file.id row).Transactional := typed
  have serves := tracks.attends.submit setUp transactional rfl (Prod.ext rfl inserts)
  obtain ⟨change, changed⟩ := Option.isSome_iff_exists.mp serves.changes
  obtain ⟨record, recorded, rfl⟩ := Option.map_eq_some_iff.mp changed
  have mine : record.page.table = file.id := (Option.some.inj (serves.place _ changed)).symm
  have absent := serves.fits _ changed
  rw [← tracks.mirrors.isSome mine] at absent
  exact ⟨record, recorded, mine,
    Option.isNone_iff_eq_none.mp (Option.isSome_eq_false_iff.mp absent)⟩

theorem Tracks.deleted {transaction : TransactionId}
    (tracks : engine.Tracks start journal transaction file.id rows) (setUp : start.SetUp)
    {ticket : Nat} {row : Row} {page : PageId}
    (deletes : (engine.submit ticket (.delete transaction row)).2 = some (.deleted page)) :
    ∃ record, row.record = some record ∧
      (record.page.table = file.id → (rows[record]?).isSome) := by
  have transactional : (Operation.delete transaction row).Transactional := trivial
  have serves := tracks.attends.submit setUp transactional rfl (Prod.ext rfl deletes)
  obtain ⟨change, changed⟩ := Option.isSome_iff_exists.mp serves.changes
  obtain ⟨record, recorded, rfl⟩ := Option.map_eq_some_iff.mp changed
  refine ⟨record, recorded, ?_⟩
  intro mine
  rw [tracks.mirrors.isSome mine]
  exact serves.fits _ changed

theorem Settled.holds (settled : engine.Settled start journal file.id rows)
    (created : start.Created file) (keeps : start.Keeps engine.database) :
    engine.Holds file rows := by
  have setUp := created.setUp
  have registered : engine.database.catalog.file file.id = .ok file := by
    rw [keeps.catalog]
    exact created.registered
  obtain ⟨_, readable⟩ :=
    keeps.readable start.numbering file.id setUp.sound created.readable file registered
  have listing := Database.rowsFrom_zero_eq_listing registered settled.mirrors
  constructor
  · have rest := settled.isolated.database.atRest (keeps.pool.fits setUp.atRest.fits) settled.free
      settled.awake
    have roomy := setUp.roomy
    rw [← keeps.pool.capacity] at roomy
    intro reader ticket count many
    rw [← listing] at many ⊢
    exact submit_full_scan engine rest roomy registered readable reader ticket many
  · intro settings numbering preference fresh name pageSize numbered made
    obtain ⟨opened, opens, later, found, volume⟩ := Database.openTable_of_new made pageSize numbered
      created.checked (created.admits.of_folders keeps.folders)
      (keeps.present file.path created.present) name
    refine ⟨opened, opens, ?_⟩
    intro reader ticket count many
    rw [← volume] at listing readable
    rw [← listing] at many ⊢
    exact submit_full_scan (new opened) later.atRest later.roomy found readable reader ticket many
  · exact rows.listing_ordered file.schema
  · intro transaction calls next changed succeed
    obtain ⟨_, tracks, _⟩ := (settled.tracks transaction).callEach setUp succeed
    exact (tracks.commit setUp).1
  · intro transaction calls next changed ticket row stored page succeed typed inserts
    obtain ⟨_, tracks, _⟩ := (settled.tracks transaction).callEach setUp succeed
    exact tracks.inserted setUp typed inserts
  · intro transaction calls next changed ticket row page succeed deletes
    obtain ⟨_, tracks, _⟩ := (settled.tracks transaction).callEach setUp succeed
    exact tracks.deleted setUp deletes

end

/-- Whatever transactions did to a new table one after another, it has the rows of a map: those that
were stored and not deleted, by those that committed. Texts are cut to the room that they have. -/
theorem table_is_map {before start : Database} (setUp : before.SetUp) {path name : String}
    {schema : Schema} {file : TableFile}
    (creates : before.createTable path schema name = (start, .ok file))
    {episodes : List Episode} {engine : Engine} {rows : Rows}
    (plays : (new start).playEach ∅ file.id episodes = some (engine, rows)) :
    engine.Holds file rows ∧ ∀ field : Field, field.ReadsBack field.stored := by
  have created := setUp.created creates
  obtain ⟨_, settled, keeps⟩ := (settled_new created).playEach created.setUp plays
  exact ⟨settled.holds created keeps, Field.readsBack_stored⟩

/-- A row is stored in the slot that another one left, and a transaction that stores and deletes is
aborted. -/
theorem table_is_map_reused_slot :
    let fresh : Database := Samples.bare 1 (fun _ => ⟨0⟩) Volume.empty
    let start : Database := Samples.created 1
    let file : TableFile := Samples.rows
    let row : Int32 → Row := Samples.row
    let inSlot (value : Int32) (slot : Nat) : Row := (row value).storedAt ⟨file.pageId 0, slot⟩
    let episodes : List Episode :=
      [⟨⟨1⟩, [.insert (row 7) rfl, .insert (row 8) rfl, .insert (row 9) rfl], true⟩,
        ⟨⟨2⟩, [.delete (inSlot 8 1), .insert (row 10) rfl], true⟩,
        ⟨⟨3⟩, [.delete (inSlot 7 0), .insert (row 11) rfl], false⟩]
    fresh.SetUp ∧ fresh.createTable "rows" Samples.numbers "rows" = (start, .ok file) ∧
      ∃ engine rows, (new start).playEach ∅ file.id episodes = some (engine, rows) ∧
        (engine.Holds file rows ∧ ∀ field : Field, field.ReadsBack field.stored) ∧
        rows.listing Samples.numbers = [inSlot 7 0, inSlot 10 1, inSlot 9 2] := by
  intro fresh start file row inSlot episodes
  have setUp : fresh.SetUp := Samples.setUp_bare (by decide) _ _
  have answered : (fresh.createTable "rows" Samples.numbers "rows").2 = .ok file := by decide +kernel
  have creates : fresh.createTable "rows" Samples.numbers "rows" = (start, .ok file) :=
    Prod.ext rfl answered
  have listed : ((new start).playEach ∅ file.id episodes).map
      (fun played => played.2.listing Samples.numbers) = some [inSlot 7 0, inSlot 10 1, inSlot 9 2] := by
    decide +kernel
  obtain ⟨⟨engine, rows⟩, plays, same⟩ := Option.map_eq_some_iff.mp listed
  exact ⟨setUp, creates, engine, rows, plays, table_is_map setUp creates plays, same⟩

end Engine

end RowStore
