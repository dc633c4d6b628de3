import RowStore.Proofs.Database.Probing
import RowStore.Proofs.Database.Samples
import RowStore.Proofs.Engine.History
import RowStore.Proofs.Engine.Turns

/-!
Insertions into a database at rest: the row comes to the first page with a vacant slot, or to a page
that is added, if the pool has room for that page and all the full ones before it. Otherwise the
pool is full of pages that the insertion itself keeps locked.
-/

set_option autoImplicit false

namespace RowStore

/-! ### Coming to a page -/

namespace Insertion

section

variable {database : Database} {insertion : Insertion}

private theorem advance_of_lt {tried : Nat}
    (inside : tried < insertion.file.pageCount database.volume) :
    insertion.advance database tried = (database, { insertion with
      nextPage := tried
      limit := insertion.file.pageCount database.volume }) := by
  unfold advance
  dsimp only
  rw [if_pos inside]

private theorem advance_of_eq {tried : Nat}
    (all : tried = insertion.file.pageCount database.volume) :
    insertion.advance database tried = ((database.appendEmptyPage insertion.file).1,
      { insertion with
        nextPage := tried
        limit := tried + 1 }) := by
  subst all
  unfold advance
  dsimp only
  rw [if_neg (Nat.lt_irrefl _)]
  rfl

private theorem skip_of_lt (inside : insertion.nextPage + 1 < insertion.limit) :
    insertion.skip database = (database, { insertion with
      nextPage := insertion.nextPage + 1 }) := by
  unfold skip
  rw [if_pos inside]

private theorem skip_of_eq (last : insertion.nextPage + 1 = insertion.limit)
    (all : insertion.limit = insertion.file.pageCount database.volume) :
    insertion.skip database = ((database.appendEmptyPage insertion.file).1, { insertion with
      nextPage := insertion.limit
      limit := insertion.limit + 1 }) := by
  unfold skip
  rw [if_neg (by omega), advance_of_eq all]

end

end Insertion

/-! ### Under one lock -/

namespace Database

section

variable {database : Database} {transaction : TransactionId} {file : TableFile} {tried : Nat}
  {content : Page} {locks : LockTable}
  (probing : database.Probing transaction file tried)
  (onDisk : file.readPage database.volume (file.pageId tried) = .ok content)
  (grants : database.pool.locks.Grants locks ⟨transaction, file.pageId tried, .exclusive⟩)

include probing onDisk grants in
theorem Probing.insert_stuck (full : tried = database.pool.capacity) (row : Row) (limit : Nat) :
    ∃ next : Database, next.volume = database.volume ∧
      Progress.insert (database.setLocks locks) ⟨transaction, file, row, tried, limit⟩ .toPool =
        (next, .finished (.failed (.poolExhausted database.pool.capacity))) := by
  have loads := probing.load_stuck onDisk grants full
  unfold entered at loads
  unfold Progress.insert Insertion.tryPage Insertion.page
  dsimp only
  rw [loads]
  refine ⟨_, ?_, rfl⟩
  rfl

include probing onDisk grants in
theorem Probing.insert_full (alone : locks.Alone transaction)
    (few : tried < database.pool.capacity) (full : content.isFull = true) (row : Row)
    (limit : Nat) :
    ∃ loaded : Database, loaded.Probing transaction file (tried + 1) ∧
      loaded.volume = database.volume ∧ loaded.pool.capacity = database.pool.capacity ∧
      Progress.insert (database.setLocks locks) ⟨transaction, file, row, tried, limit⟩ .toPool =
        ((Insertion.skip loaded ⟨transaction, file, row, tried, limit⟩).1,
          .waiting (.inserting
            (Insertion.skip loaded ⟨transaction, file, row, tried, limit⟩).2 .toPool)) := by
  obtain ⟨loaded, frame, loads, next, volume, capacity, _⟩ :=
    probing.load onDisk grants alone few
  let insertion : Insertion := ⟨transaction, file, row, tried, limit⟩
  have tries : ((database.setLocks locks).noteAccess insertion.transaction insertion.page
      .write).load insertion.page = .ok (loaded, frame, content) := loads
  exact ⟨loaded, next, volume, capacity, Progress.insert_of_full tries full .toPool⟩

include probing onDisk grants in
theorem Probing.insert_vacant (alone : locks.Alone transaction)
    (few : tried < database.pool.capacity) {slot : Nat}
    (vacant : content.firstVacant? = some slot) {row : Row} (fits : row.schema = file.schema)
    (limit : Nat) :
    ∃ next : Database, next.volume = database.volume ∧
      Progress.insert (database.setLocks locks) ⟨transaction, file, row, tried, limit⟩ .toPool =
        (next, .finished (.inserted (row.storedAt ⟨file.pageId tried, slot⟩)
          (file.pageId tried))) := by
  obtain ⟨loaded, frame, loads, next, volume, _, found⟩ := probing.load onDisk grants alone few
  have schema := (TableFile.wellFormed_of_readPage onDisk).2.2.1
  let insertion : Insertion := ⟨transaction, file, row, tried, limit⟩
  have tries : ((database.setLocks locks).noteAccess insertion.transaction insertion.page
      .write).load insertion.page = .ok (loaded, frame, content) := loads
  obtain ⟨last, same, stores⟩ :=
    Progress.insert_of_vacant tries next.sound found vacant (fits.trans schema.symm)
  exact ⟨last, same.trans volume, stores⟩

end

/-- Whether a slot is the lowest vacant one of a page, or of the page that would be added next. -/
def VacantAt (database : Database) (file : TableFile) (number slot : Nat) : Prop :=
  (∃ content, file.readPage database.volume (file.pageId number) = .ok content ∧
    content.firstVacant? = some slot) ∨
  (number = file.pageCount database.volume ∧ slot = 0)

/-- One page was added to the file, or none. -/
def Extends (start after : Database) (file : TableFile) : Prop :=
  after.volume = start.volume ∨ after.volume = (file.appendEmptyPage start.volume).1

theorem Extends.told {start after : Database} {file : TableFile}
    (extends_ : start.Extends after file) (few : file.pageCount start.volume + 1 < UInt32.size) :
    file.toldCount after.volume = file.pageCount after.volume := by
  apply TableFile.toldCount_of_lt
  rcases extends_ with same | added
  · rw [same]
    omega
  · rw [added]
    exact Nat.lt_of_le_of_lt (file.pageCount_appendEmptyPage_le start.volume) few

/-- What comes of storing a row in a table, by whether the pool has room for every page up to the
first one that has room for the row. -/
structure InsertionEnds (database : Database) (file : TableFile) (row : Row)
    (outcome : Option Outcome) : Prop where
  stored : file.firstRoom database.volume < database.pool.capacity →
    ∃ slot, database.VacantAt file (file.firstRoom database.volume) slot ∧
      outcome = some (.inserted
        (row.storedAt ⟨file.pageId (file.firstRoom database.volume), slot⟩)
        (file.pageId (file.firstRoom database.volume)))
  exhausted : database.pool.capacity ≤ file.firstRoom database.volume →
    outcome = some (.failed (.poolExhausted database.pool.capacity))

end Database

/-! ### From page to page -/

namespace Engine

section

variable {engine : Engine} {ticket : Nat} {transaction : TransactionId} {file : TableFile}
  {row : Row} {tried limit : Nat} {content : Page}
  (probing : engine.database.Probing transaction file tried)
  (found : engine.tasks[ticket]? =
    some (.inserting ⟨transaction, file, row, tried, limit⟩ .toPool))
  (onDisk : file.readPage engine.database.volume (file.pageId tried) = .ok content)

include probing found in
private theorem turn_probing :
    ∃ locks : LockTable, locks.Alone transaction ∧
      engine.database.pool.locks.Grants locks ⟨transaction, file.pageId tried, .exclusive⟩ ∧
      engine.turn ticket = engine.note ticket
        (Progress.insert (engine.database.setLocks locks)
          ⟨transaction, file, row, tried, limit⟩ .toPool).1
        (Progress.insert (engine.database.setLocks locks)
          ⟨transaction, file, row, tried, limit⟩ .toPool).2 := by
  let request : LockRequest := ⟨transaction, file.pageId tried, .exclusive⟩
  have own : request.transaction = transaction := rfl
  obtain ⟨locks, acquires, grants, alone⟩ := probing.alone.acquire ticket own
  exact ⟨locks, alone, grants, turn_of_granted found acquires⟩

include probing found onDisk in
private theorem turns_stuck (full : tried = engine.database.pool.capacity) (bound : Nat) :
    (engine.turns ticket (bound + 1)).1.database.volume = engine.database.volume ∧
      (engine.turns ticket (bound + 1)).2 =
        some (.failed (.poolExhausted engine.database.pool.capacity)) := by
  obtain ⟨locks, _, grants, turns⟩ := turn_probing probing found
  obtain ⟨next, volume, fails⟩ := probing.insert_stuck onDisk grants full row limit
  rw [fails] at turns
  rw [turns_of_finished turns]
  exact ⟨volume, rfl⟩

include probing found onDisk in
private theorem turns_vacant (few : tried < engine.database.pool.capacity) {slot : Nat}
    (vacant : content.firstVacant? = some slot) (fits : row.schema = file.schema) (bound : Nat) :
    (engine.turns ticket (bound + 1)).1.database.volume = engine.database.volume ∧
      (engine.turns ticket (bound + 1)).2 =
        some (.inserted (row.storedAt ⟨file.pageId tried, slot⟩) (file.pageId tried)) := by
  obtain ⟨locks, alone, grants, turns⟩ := turn_probing probing found
  obtain ⟨next, volume, stores⟩ := probing.insert_vacant onDisk grants alone few vacant fits limit
  rw [stores] at turns
  rw [turns_of_finished turns]
  exact ⟨volume, rfl⟩

include probing found onDisk in
private theorem turns_full (few : tried < engine.database.pool.capacity)
    (full : content.isFull = true) :
    ∃ loaded : Database, loaded.Probing transaction file (tried + 1) ∧
      loaded.volume = engine.database.volume ∧
      loaded.pool.capacity = engine.database.pool.capacity ∧
      ∀ bound, engine.turns ticket (bound + 1) =
        (engine.note ticket (Insertion.skip loaded ⟨transaction, file, row, tried, limit⟩).1
          (.waiting (.inserting (Insertion.skip loaded
            ⟨transaction, file, row, tried, limit⟩).2 .toPool))).1.turns ticket bound := by
  obtain ⟨locks, alone, grants, turns⟩ := turn_probing probing found
  obtain ⟨loaded, next, volume, capacity, goesOn⟩ :=
    probing.insert_full onDisk grants alone few full row limit
  rw [goesOn] at turns
  exact ⟨loaded, next, volume, capacity, turns_of_underWay turns⟩

end

section

variable {start : Database} {ticket : Nat} {transaction : TransactionId} {file : TableFile}
  {row : Row} (checked : TableFile.checkGeometry file.schema file.pageSize = .ok ())
  (fits : row.schema = file.schema)

include checked fits in
/-- All pages are full and tried, so that the row comes to the page that was added. -/
private theorem turns_added {before : Database} {engine : Engine} {tried limit : Nat}
    (volume : before.volume = start.volume)
    (capacity : before.pool.capacity = start.pool.capacity)
    (probing : before.Probing transaction file tried)
    (database : engine.database = (before.appendEmptyPage file).1)
    (found : engine.tasks[ticket]? =
      some (.inserting ⟨transaction, file, row, tried, limit⟩ .toPool))
    (all : tried = file.pageCount start.volume)
    (last : file.firstRoom start.volume = file.pageCount start.volume) (count : Nat) :
    start.Extends (engine.turns ticket count).1.database file ∧
      (0 < count → start.InsertionEnds file row (engine.turns ticket count).2) := by
  subst all
  have grown := probing.append
  rw [← database] at grown
  have extended : engine.database.volume = (file.appendEmptyPage start.volume).1 := by
    rw [database, ← volume]
    rfl
  obtain ⟨content, read, vacant⟩ := TableFile.readPage_appended checked start.volume
  rw [← extended] at read
  have room : engine.database.pool.capacity = start.pool.capacity := by
    rw [database]
    exact capacity
  have crowded := grown.length_le_capacity
  cases count with
  | zero => exact ⟨.inr extended, nofun⟩
  | succ bound =>
      by_cases few : file.pageCount start.volume < engine.database.pool.capacity
      · obtain ⟨same, stores⟩ := turns_vacant grown found read few vacant fits bound
        refine ⟨.inr (same.trans extended), fun _ => ⟨?_, ?_⟩⟩
        · intro _
          rw [last]
          exact ⟨0, Or.inr ⟨rfl, rfl⟩, stores⟩
        · intro many
          rw [last, ← room] at many
          exact absurd few (Nat.not_lt.mpr many)
      · obtain ⟨same, fails⟩ := turns_stuck grown found read
          (Nat.le_antisymm crowded (Nat.not_lt.mp few)) bound
        refine ⟨.inr (same.trans extended), fun _ => ⟨?_, ?_⟩⟩
        · intro enough
          rw [last, ← room] at enough
          exact absurd enough few
        · intro _
          rw [← room]
          exact fails

include checked fits in
/-- From each page on. It takes a turn for every page that is not tried yet, and one more. -/
private theorem turns_probing
    (readable : ∀ number, number < file.pageCount start.volume →
      ∃ content, file.readPage start.volume (file.pageId number) = .ok content)
    {engine : Engine} {tried : Nat}
    (volume : engine.database.volume = start.volume)
    (capacity : engine.database.pool.capacity = start.pool.capacity)
    (probing : engine.database.Probing transaction file tried)
    (found : engine.tasks[ticket]? = some (.inserting
      ⟨transaction, file, row, tried, file.pageCount start.volume⟩ .toPool))
    (inside : tried < file.pageCount start.volume) (before : tried ≤ file.firstRoom start.volume)
    (count : Nat) :
    start.Extends (engine.turns ticket count).1.database file ∧
      (file.pageCount start.volume + 1 ≤ count + tried →
        start.InsertionEnds file row (engine.turns ticket count).2) := by
  induction count generalizing engine tried with
  | zero =>
      refine ⟨.inl volume, ?_⟩
      intro enough
      omega
  | succ bound ih =>
      obtain ⟨content, read⟩ := readable tried inside
      have onDisk : file.readPage engine.database.volume (file.pageId tried) = .ok content := by
        rw [volume]
        exact read
      have crowded := probing.length_le_capacity
      by_cases few : tried < engine.database.pool.capacity
      · rcases Nat.lt_or_eq_of_le before with earlier | first
        · -- The page is full, and the insertion goes on with the next one or adds one.
          have full := TableFile.isFull_of_lt_firstRoom earlier read
          obtain ⟨loaded, next, sameVolume, sameCapacity, turns⟩ :=
            turns_full probing found onDisk few full
          rw [turns]
          have nextVolume := sameVolume.trans volume
          have nextCapacity := sameCapacity.trans capacity
          by_cases more : tried + 1 < file.pageCount start.volume
          · rw [Insertion.skip_of_lt more]
            obtain ⟨extends_, ends⟩ := ih nextVolume nextCapacity next
              (tasks_note_waiting engine ticket loaded _) more earlier
            exact ⟨extends_, fun enough => ends (by omega)⟩
          · have last : tried + 1 = file.pageCount start.volume := by omega
            have all : file.firstRoom start.volume = file.pageCount start.volume :=
              Nat.le_antisymm TableFile.firstRoom_le (by omega)
            rw [last] at next
            rw [Insertion.skip_of_eq (by exact last) (by rw [nextVolume])]
            obtain ⟨extends_, ends⟩ := turns_added checked fits nextVolume nextCapacity next rfl
              (tasks_note_waiting engine ticket _ _) rfl all bound
            exact ⟨extends_, fun enough => ends (by omega)⟩
        · -- The page has room.
          have room : content.isFull = false := by
            rw [first] at inside read
            exact TableFile.isFull_firstRoom inside read
          obtain ⟨slot, vacant⟩ := Page.exists_firstVacant? room
          obtain ⟨same, stores⟩ := turns_vacant probing found onDisk few vacant fits bound
          refine ⟨.inl (same.trans volume), fun _ => ⟨?_, ?_⟩⟩
          · intro _
            rw [← first]
            exact ⟨slot, Or.inl ⟨content, read, vacant⟩, stores⟩
          · intro many
            omega
      · have full : tried = engine.database.pool.capacity :=
          Nat.le_antisymm crowded (Nat.not_lt.mp few)
        obtain ⟨same, fails⟩ := turns_stuck probing found onDisk full bound
        refine ⟨.inl (same.trans volume), fun _ => ⟨?_, ?_⟩⟩
        · intro room
          omega
        · intro _
          rw [← capacity]
          exact fails

end

private theorem exists_of_isOk {result : Except Fault Page} (succeeds : result.isOk = true) :
    ∃ page, result = .ok page := by
  cases result with
  | ok page => exact ⟨page, rfl⟩
  | error fault => cases succeeds

private theorem insert_runs (engine : Engine) (rest : engine.database.AtRest) {file : TableFile}
    (registered : engine.database.catalog.file file.id = .ok file)
    (checked : TableFile.checkGeometry file.schema file.pageSize = .ok ())
    (readable : ∀ number, number < file.pageCount engine.database.volume →
      ∃ content, file.readPage engine.database.volume (file.pageId number) = .ok content)
    {row : Row} (fits : row.schema = file.schema) (ticket : Nat) (transaction : TransactionId) :
    engine.database.InsertionEnds file row
        (engine.submit ticket (.insert transaction file.id row)).2 ∧
      ∀ count, engine.database.Extends
        ((engine.begin ticket (.insert transaction file.id row)).1.turns ticket count).1.database
          file := by
  have probing := rest.probing registered transaction
  have begins := Progress.ofOperation_insert registered fits transaction
  have begun : (engine.begin ticket (.insert transaction file.id row)).1 =
      (engine.note ticket (Insertion.advance engine.database ⟨transaction, file, row, 0, 0⟩ 0).1
        (.waiting (.inserting (Insertion.advance engine.database
          ⟨transaction, file, row, 0, 0⟩ 0).2 .toPool))).1 := by
    unfold Engine.begin
    rw [begins]
  rw [submit_of_waiting begins, begun]
  unfold run
  by_cases some : 0 < file.pageCount engine.database.volume
  · rw [Insertion.advance_of_lt (by exact some)]
    dsimp only
    let first : Task :=
      .inserting ⟨transaction, file, row, 0, file.pageCount engine.database.volume⟩ .toPool
    have enough :=
      pageCount_le_turnBound (engine.note ticket engine.database (.waiting first)).1 ticket file
    rw [database_note] at enough
    have turns := @turns_probing engine.database ticket transaction file row checked fits readable
      (engine.note ticket engine.database (.waiting first)).1 0 rfl rfl probing
        (tasks_note_waiting engine ticket _ _) some (Nat.zero_le _)
    exact ⟨(turns _).2 (Nat.le_of_succ_le enough), fun count => (turns count).1⟩
  · have none : file.pageCount engine.database.volume = 0 := Nat.eq_zero_of_not_pos some
    have last : file.firstRoom engine.database.volume = file.pageCount engine.database.volume :=
      Nat.le_antisymm TableFile.firstRoom_le (by omega)
    obtain ⟨bound, enough⟩ := exists_turnBound_eq_succ (engine.note ticket
      (Insertion.advance engine.database ⟨transaction, file, row, 0, 0⟩ 0).1
      (.waiting (.inserting (Insertion.advance engine.database
        ⟨transaction, file, row, 0, 0⟩ 0).2 .toPool))).1 ticket
    rw [enough, Insertion.advance_of_eq (by exact none.symm)]
    have turns := turns_added checked fits rfl rfl probing rfl
      (tasks_note_waiting engine ticket _ (.inserting ⟨transaction, file, row, 0, 1⟩ .toPool))
        none.symm last
    exact ⟨(turns _).2 (Nat.succ_pos bound), fun count => (turns count).1⟩

/-- With the database at rest, so that what is in the pool is as on the disk, and every page of the
table readable, a row is stored in the first page with a vacant slot, which is added if there is none.
It cannot be if as many full pages come before as the pool has room for. No page count is too large
to be told, if that of the table was none with one page more. -/
theorem insert_ends (engine : Engine) (rest : engine.database.AtRest) {file : TableFile}
    (registered : engine.database.catalog.file file.id = .ok file)
    (checked : TableFile.checkGeometry file.schema file.pageSize = .ok ())
    (few : file.pageCount engine.database.volume + 1 < UInt32.size)
    (readable : ∀ number, number < file.pageCount engine.database.volume →
      ∃ content, file.readPage engine.database.volume (file.pageId number) = .ok content)
    {row : Row} (fits : row.schema = file.schema) (ticket : Nat) (transaction : TransactionId) :
    engine.database.InsertionEnds file row
        (engine.submit ticket (.insert transaction file.id row)).2 ∧
      file.toldCount engine.database.volume = file.pageCount engine.database.volume ∧
      ∀ count, let during :=
          ((engine.begin ticket (.insert transaction file.id row)).1.turns ticket count).1.database
        file.toldCount during.volume = file.pageCount during.volume := by
  obtain ⟨ends, extended⟩ := insert_runs engine rest registered checked readable fits ticket
    transaction
  refine ⟨ends, TableFile.toldCount_of_lt (by omega), fun count => ?_⟩
  exact (extended count).told few

/-- A table whose one page is full takes a row into a second page, in a pool with room for both. -/
theorem insert_ends_behind_full_page :
    let start : Database := Samples.stored 2 Samples.fullPage
    let file : TableFile := Samples.rows
    let row : Row := Samples.row 8
    let insert : Operation := .insert ⟨1⟩ file.id row
    start.AtRest ∧ start.catalog.file file.id = .ok file ∧
      TableFile.checkGeometry file.schema file.pageSize = .ok () ∧
      file.pageCount start.volume + 1 < UInt32.size ∧
      (∀ number, number < file.pageCount start.volume →
        ∃ content, file.readPage start.volume (file.pageId number) = .ok content) ∧
      row.schema = file.schema ∧
      start.InsertionEnds file row ((new start).submit 0 insert).2 ∧
      (∀ count, let during := (((new start).begin 0 insert).1.turns 0 count).1.database
        file.toldCount during.volume = file.pageCount during.volume) ∧
      ((new start).submit 0 insert).2 =
        some (.inserted (row.storedAt ⟨file.pageId 1, 0⟩) (file.pageId 1)) := by
  intro start file row insert
  have setUp : start.SetUp := Samples.setUp_stored (by decide) _
  have registered : start.catalog.file file.id = .ok file := by decide +kernel
  have checked : TableFile.checkGeometry file.schema file.pageSize = .ok () := by decide +kernel
  have few : file.pageCount start.volume + 1 < UInt32.size := by decide +kernel
  have readable : ∀ number, number < file.pageCount start.volume →
      ∃ content, file.readPage start.volume (file.pageId number) = .ok content := by
    have count : file.pageCount start.volume = 1 := by decide +kernel
    have reads : (file.readPage start.volume (file.pageId 0)).isOk = true := by decide +kernel
    intro number inside
    rw [count] at inside
    rw [Nat.lt_one_iff.mp inside]
    exact exists_of_isOk reads
  have fits : row.schema = file.schema := rfl
  obtain ⟨ends, _, told⟩ :=
    insert_ends (new start) setUp.atRest registered checked few readable fits 0 ⟨1⟩
  exact ⟨setUp.atRest, registered, checked, few, readable, fits, ends, told, by decide +kernel⟩

/-- A pool of one page, which is all that the insertion finds full and keeps locked, has no room for
the page that is added. Nor has it if the file was made anew, and the full page was left in the pool:
there are no pages before the one that is added, and still there is no room for one. -/
theorem insert_fails_behind_full_page :
    let start : Database := Samples.stored 1 Samples.fullPage
    let file : TableFile := Samples.rows
    let row : Row := Samples.row 8
    let emptied := (new start).serveEach
      [.perform (.begin 0 (.fetch ⟨2⟩ (file.pageId 0) .read)), .perform (.turn 0),
        .openFile "rows" .truncating Samples.numbers 16, .perform (.abort ⟨2⟩)]
    1 ≤ start.pool.capacity ∧ start.AtRest ∧ start.catalog.file file.id = .ok file ∧
      (∀ number, number < file.pageCount start.volume →
        ∃ content, file.readPage start.volume (file.pageId number) = .ok content) ∧
      row.schema = file.schema ∧
      ((new start).submit 0 (.insert ⟨1⟩ file.id row)).2 = some (.failed (.poolExhausted 1)) ∧
      emptied.database.catalog.file file.id = .ok file ∧
      emptied.database.pool.locks.pages.isEmpty = true ∧
      (∀ entry ∈ emptied.database.pool.frames.toList, entry.2.isDirty = false) ∧
      file.pageCount emptied.database.volume = 0 ∧
      (emptied.submit 0 (.insert ⟨1⟩ file.id row)).2 = some (.failed (.poolExhausted 1)) := by
  intro start file row emptied
  have setUp : start.SetUp := Samples.setUp_stored (by decide) _
  have readable : ∀ number, number < file.pageCount start.volume →
      ∃ content, file.readPage start.volume (file.pageId number) = .ok content := by
    have count : file.pageCount start.volume = 1 := by decide +kernel
    have reads : (file.readPage start.volume (file.pageId 0)).isOk = true := by decide +kernel
    intro number inside
    rw [count] at inside
    rw [Nat.lt_one_iff.mp inside]
    exact exists_of_isOk reads
  exact ⟨by decide +kernel, setUp.atRest, by decide +kernel, readable, rfl, by decide +kernel,
    by decide +kernel, by decide +kernel, by decide +kernel, by decide +kernel, by decide +kernel⟩

end Engine

end RowStore
