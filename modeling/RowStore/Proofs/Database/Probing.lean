import Mathlib.Data.List.Nodup
import RowStore.Operation.Progress
import RowStore.Proofs.Database.Rest

/-!
Probing: an insertion locks the pages that it tries one after another and keeps them locked, so that
none of them leaves the pool before it ends. It can try as many pages as the pool has room for, and
all pages of a table that is no larger than the pool.
-/

set_option autoImplicit false

namespace RowStore

/-! ### Pages of a table in order -/

namespace TableFile

/-- The number of the first page with a vacant slot, or of the next page if there is none. -/
def firstRoom (file : TableFile) (volume : Volume) : Nat :=
  ((List.range (file.pageCount volume)).find? (fun number =>
    (file.readPage volume (file.pageId number)).toOption.any (fun page => !page.isFull))).getD
      (file.pageCount volume)

def firstPages (file : TableFile) (count : Nat) : List PageId :=
  (List.range count).map file.pageId

section

variable {file : TableFile} {volume : Volume} {page : PageId} {count number : Nat}

theorem mem_firstPages : page ∈ file.firstPages count ↔
    page.table = file.id ∧ page.number < count := by
  unfold firstPages
  rw [List.mem_map]
  constructor
  · rintro ⟨number, member, rfl⟩
    exact ⟨rfl, List.mem_range.mp member⟩
  · rintro ⟨mine, inside⟩
    refine ⟨page.number, List.mem_range.mpr inside, ?_⟩
    unfold pageId
    rw [← mine]

theorem mem_firstPages_succ : page ∈ file.firstPages (count + 1) ↔
    page ∈ file.firstPages count ∨ page = file.pageId count := by
  unfold firstPages
  rw [List.range_succ, List.map_append, List.mem_append, List.map_singleton, List.mem_singleton]

theorem nodup_firstPages (file : TableFile) (count : Nat) : (file.firstPages count).Nodup := by
  unfold firstPages
  refine List.Nodup.map ?_ List.nodup_range
  intro left right same
  exact congrArg PageId.number same

theorem length_firstPages (file : TableFile) (count : Nat) :
    (file.firstPages count).length = count := by
  unfold firstPages
  rw [List.length_map, List.length_range]

theorem firstRoom_le : file.firstRoom volume ≤ file.pageCount volume := by
  unfold firstRoom
  cases found : (List.range (file.pageCount volume)).find? (fun number =>
      (file.readPage volume (file.pageId number)).toOption.any (fun page => !page.isFull)) with
  | none => exact Nat.le_refl _
  | some first =>
      obtain ⟨_, inside, _⟩ := List.find?_range_eq_some.mp found
      exact Nat.le_of_lt (List.mem_range.mp inside)

theorem isFull_of_lt_firstRoom (before : number < file.firstRoom volume) {content : Page}
    (read : file.readPage volume (file.pageId number) = .ok content) : content.isFull = true := by
  have full : (!(file.readPage volume (file.pageId number)).toOption.any
      (fun page => !page.isFull)) = true := by
    unfold firstRoom at before
    cases found : (List.range (file.pageCount volume)).find? (fun number =>
        (file.readPage volume (file.pageId number)).toOption.any (fun page => !page.isFull)) with
    | none =>
        rw [found] at before
        exact List.find?_range_eq_none.mp found number before
    | some first =>
        rw [found] at before
        exact (List.find?_range_eq_some.mp found).2.2 number before
  rw [read] at full
  simpa [Except.toOption] using full

theorem isFull_firstRoom (inside : file.firstRoom volume < file.pageCount volume) {content : Page}
    (read : file.readPage volume (file.pageId (file.firstRoom volume)) = .ok content) :
    content.isFull = false := by
  unfold firstRoom at inside read
  cases found : (List.range (file.pageCount volume)).find? (fun number =>
      (file.readPage volume (file.pageId number)).toOption.any (fun page => !page.isFull)) with
  | none =>
      rw [found] at inside
      exact absurd inside (Nat.lt_irrefl _)
  | some first =>
      rw [found] at read
      have room := (List.find?_range_eq_some.mp found).1
      change file.readPage volume (file.pageId first) = .ok content at read
      rw [read] at room
      simpa [Except.toOption] using room

end

end TableFile

/-! ### Trying a page -/

namespace Progress

theorem ofOperation_insert {database : Database} {file : TableFile}
    (registered : database.catalog.file file.id = .ok file) {row : Row}
    (fits : row.schema = file.schema) (transaction : TransactionId) :
    ofOperation database (.insert transaction file.id row) =
      ((Insertion.advance database ⟨transaction, file, row, 0, 0⟩ 0).1, .waiting (.inserting
        (Insertion.advance database ⟨transaction, file, row, 0, 0⟩ 0).2 .toPool)) := by
  unfold ofOperation insertTable insertFile Insertion.start
  dsimp only
  rw [registered]
  dsimp only
  rw [if_pos fits]

section

variable {database loaded : Database} {insertion : Insertion} {frame : Nat} {content : Page}
  (loads : (database.noteAccess insertion.transaction insertion.page .write).load insertion.page =
    .ok (loaded, frame, content))

include loads in
theorem insert_of_full (full : content.isFull = true) (handover : Handover) :
    insert database insertion handover = ((insertion.skip loaded).1,
      .waiting (.inserting (insertion.skip loaded).2 handover)) := by
  unfold insert Insertion.tryPage
  dsimp only
  rw [loads]
  simp only [full, if_true]

include loads in
/-- A row comes to the lowest vacant slot. The page that is changed in its frame is the one in the
pool, and is taken over as it is. -/
theorem insert_of_vacant (sound : loaded.pool.Sound)
    (found : loaded.pool.residentFrame? insertion.page = some (frame, content)) {slot : Nat}
    (vacant : content.firstVacant? = some slot)
    (fits : insertion.row.schema = content.schema) :
    ∃ next : Database, next.volume = loaded.volume ∧
      insert database insertion .toPool = (next, .finished (.inserted
        (insertion.row.storedAt ⟨insertion.page, slot⟩) insertion.page)) := by
  have id := sound.id_eq found
  have room : content.isFull = false := by
    unfold Page.isFull
    rw [vacant]
    rfl
  have inserts : content.insert insertion.row = .ok
      (content.assign slot (some (insertion.row.storedAt ⟨content.id, slot⟩)),
        insertion.row.storedAt ⟨content.id, slot⟩) := by
    unfold Page.insert
    rw [if_pos fits, vacant]
  have absorbs (changed : Page) (same : changed.id = insertion.page)
      (owned : changed.owner = some insertion.transaction) :
      (loaded.setFrame frame changed).absorb insertion.transaction frame changed =
        ((loaded.setFrame frame changed).noteAccess insertion.transaction insertion.page .write,
          .ok ()) := by
    have resident : (loaded.setFrame frame changed).pool.residentFrame? insertion.page =
        some (frame, changed) :=
      (sound.residentFrame?_setFrame found changed _).trans (if_pos rfl)
    exact Database.absorb_of_resident resident same owned
  unfold insert Insertion.tryPage
  dsimp only
  rw [loads]
  simp only [room, Bool.false_eq_true, if_false, inserts, handOver]
  rw [absorbs ((content.assign slot (some (insertion.row.storedAt ⟨content.id, slot⟩))).mark
    (some insertion.transaction)) id rfl, ← id]
  refine ⟨_, ?_, rfl⟩
  rfl

end

end Progress

/-! ### What is so while pages are tried -/

namespace Database

structure Probing (database : Database) (transaction : TransactionId) (file : TableFile)
    (tried : Nat) : Prop where
  registered : database.catalog.file file.id = .ok file
  sound : database.pool.Sound
  fits : database.pool.Fits
  unowned : ∀ page frame content,
    database.pool.residentFrame? page = some (frame, content) → content.owner = none
  clean : ∀ number frame content,
    database.pool.residentFrame? (file.pageId number) = some (frame, content) →
      file.readPage database.volume (file.pageId number) = .ok content
  alone : database.pool.locks.Alone transaction
  locked : ∀ page, database.pool.locks.exclusiveHolder? page =
    if page ∈ file.firstPages tried then some transaction else none
  probed : ∀ page ∈ file.firstPages tried, database.pool.isCached page = true

section

variable {database : Database} {transaction : TransactionId} {file : TableFile} {tried : Nat}

theorem AtRest.probing (rest : database.AtRest)
    (registered : database.catalog.file file.id = .ok file) (transaction : TransactionId) :
    database.Probing transaction file 0 := by
  have unread {page : PageId} {frame : Nat} {content : Page}
      (found : database.pool.residentFrame? page = some (frame, content)) :
      ∃ own, database.catalog.file page.table = .ok own ∧
        own.readPage database.volume page = .ok content :=
    diskPage?_eq_some.mp (rest.clean page frame content found)
  refine ⟨registered, rest.sound, rest.fits, ?_, ?_, rest.alone transaction, ?_, ?_⟩
  · intro page frame content found
    obtain ⟨own, _, read⟩ := unread found
    exact (TableFile.wellFormed_of_readPage read).2.2.2.2.1
  · intro number frame content found
    obtain ⟨own, registeredOwn, read⟩ := unread found
    cases registered.symm.trans registeredOwn
    exact read
  · intro page
    rw [rest.exclusiveHolder?, if_neg (by simp [TableFile.firstPages])]
  · intro page member
    simp [TableFile.firstPages] at member

theorem Probing.length_le_capacity (probing : database.Probing transaction file tried) :
    tried ≤ database.pool.capacity := by
  have many := Pool.length_le_residentCount (file.nodup_firstPages tried) probing.probed
  rw [file.length_firstPages] at many
  exact Nat.le_trans many probing.fits

theorem Probing.append (probing : database.Probing transaction file tried) :
    (database.appendEmptyPage file).1.Probing transaction file tried := by
  refine ⟨probing.registered, probing.sound, probing.fits, probing.unowned, ?_, probing.alone,
    probing.locked, probing.probed⟩
  intro number frame content found
  have read := probing.clean number frame content found
  rcases file.readPage_appendEmptyPage database.volume (file.pageId number) with same | ⟨unread, _⟩
  · exact same.trans read
  · exact absurd read (unread content)

/-! ### Trying the next page -/

/-- The database when the transaction has the page to itself and means to write it. -/
def entered (database : Database) (locks : LockTable) (transaction : TransactionId)
    (page : PageId) : Database :=
  (database.setLocks locks).noteAccess transaction page .write

section

variable {content : Page} {locks : LockTable}
  (probing : database.Probing transaction file tried)
  (onDisk : file.readPage database.volume (file.pageId tried) = .ok content)
  (grants : database.pool.locks.Grants locks ⟨transaction, file.pageId tried, .exclusive⟩)

include probing grants in
private theorem Probing.holder (page : PageId) : locks.exclusiveHolder? page =
    if page ∈ file.firstPages (tried + 1) then some transaction else none := by
  rw [grants.exclusiveHolder?, probing.locked]
  by_cases same : file.pageId tried = page
  · subst same
    rw [if_pos ⟨rfl, rfl⟩, if_pos (TableFile.mem_firstPages_succ.mpr (Or.inr rfl))]
  · have iff : page ∈ file.firstPages (tried + 1) ↔ page ∈ file.firstPages tried :=
      TableFile.mem_firstPages_succ.trans (or_iff_left (Ne.symm same))
    rw [if_neg (fun both => same both.1)]
    simp only [iff]

include probing grants in
private theorem Probing.room (few : tried < database.pool.capacity)
    (absent : database.pool.residentFrame? (file.pageId tried) = none) :
    let pool := (database.entered locks transaction (file.pageId tried)).pool
    pool.residentCount < pool.capacity ∨ pool.evictable ≠ [] := by
  intro pool
  by_cases room : pool.residentCount < pool.capacity
  · exact Or.inl room
  · right
    have more : (file.firstPages tried).length < pool.residentCount := by
      rw [file.length_firstPages]
      exact Nat.lt_of_lt_of_le few (Nat.not_lt.mp room)
    obtain ⟨page, cached, untried⟩ := Pool.exists_cached_of_lt more
    obtain ⟨frame, old, found⟩ := Pool.Sound.exists_of_isCached probing.sound cached
    have free : locks.exclusiveHolder? page = none := by
      rw [probing.holder grants, if_neg]
      intro member
      rcases TableFile.mem_firstPages_succ.mp member with earlier | rfl
      · exact untried earlier
      · rw [absent] at found
        cases found
    exact List.ne_nil_of_mem
      (Pool.mem_evictable.mpr ⟨frame, old, found, probing.unowned page frame old found, free⟩)

include probing onDisk in
private theorem Probing.diskPage? : database.diskPage? (file.pageId tried) = some content :=
  diskPage?_eq_some.mpr ⟨file, probing.registered, onDisk⟩

include probing onDisk grants in
/-- The next page is loaded if fewer pages were tried than the pool has room for. -/
theorem Probing.load (alone : locks.Alone transaction) (few : tried < database.pool.capacity) :
    ∃ loaded frame, (database.entered locks transaction (file.pageId tried)).load
        (file.pageId tried) = .ok (loaded, frame, content) ∧
      loaded.Probing transaction file (tried + 1) ∧ loaded.volume = database.volume ∧
      loaded.pool.capacity = database.pool.capacity ∧
      loaded.pool.residentFrame? (file.pageId tried) = some (frame, content) := by
  have sound : (database.entered locks transaction (file.pageId tried)).pool.Sound := probing.sound
  obtain ⟨loaded, frame, loads⟩ : ∃ loaded frame,
      (database.entered locks transaction (file.pageId tried)).load (file.pageId tried) =
        .ok (loaded, frame, content) := by
    cases found : database.pool.residentFrame? (file.pageId tried) with
    | some entry =>
        obtain ⟨frame, old⟩ := entry
        have same := probing.clean tried frame old found
        rw [onDisk] at same
        cases same
        exact ⟨_, frame, load_of_resident found⟩
    | none =>
        exact load_of_room sound found (probing.diskPage? onDisk) (probing.room grants few found)
  obtain ⟨pool, rfl, takes, _⟩ := load_cases sound loads
  have read := TableFile.wellFormed_of_readPage onDisk
  refine ⟨_, frame, loads, ?_, rfl, takes.keeps.capacity, takes.found⟩
  refine ⟨probing.registered, takes.sound, takes.keeps.fits probing.fits, ?_, ?_, ?_, ?_, ?_⟩
  · intro page held old found
    rcases takes.cases found with ⟨_, _, rfl⟩ | before
    · exact read.2.2.2.2.1
    · exact probing.unowned page held old before
  · intro number held old found
    rcases takes.cases found with ⟨same, _, rfl⟩ | before
    · rw [same]
      exact onDisk
    · exact probing.clean number held old before
  · dsimp only
    rw [takes.locks]
    exact alone
  · intro page
    dsimp only
    rw [takes.locks]
    exact probing.holder grants page
  · intro page member
    by_cases same : page = file.pageId tried
    · rw [same]
      exact Pool.isCached_of_residentFrame? takes.found
    · have holds := probing.holder grants page
      rw [if_pos member] at holds
      have earlier := (TableFile.mem_firstPages_succ.mp member).resolve_right same
      obtain ⟨held, old, found⟩ :=
        probing.sound.exists_of_isCached (probing.probed page earlier)
      -- A page that the transaction has to itself is not dropped.
      rcases takes.others page same with stays | ⟨_, free, _⟩
      · exact Pool.isCached_of_residentFrame? (stays.trans found)
      · cases holds.symm.trans free

include probing onDisk grants in
/-- A pool that is full of the pages tried has no room for the next one. -/
theorem Probing.load_stuck (full : tried = database.pool.capacity) :
    (database.entered locks transaction (file.pageId tried)).load (file.pageId tried) =
      .error (.poolExhausted database.pool.capacity) := by
  have bound := probing.fits
  have crowded (page : PageId) (cached : database.pool.isCached page = true) :
      page ∈ file.firstPages tried := by
    by_contra untried
    have distinct : (page :: file.firstPages tried).Nodup :=
      List.nodup_cons.mpr ⟨untried, file.nodup_firstPages tried⟩
    have present : ∀ other ∈ page :: file.firstPages tried,
        database.pool.isCached other = true := by
      intro other member
      rcases List.mem_cons.mp member with rfl | earlier
      · exact cached
      · exact probing.probed other earlier
    have many := Pool.length_le_residentCount distinct present
    rw [List.length_cons, file.length_firstPages] at many
    unfold Pool.Fits at bound
    omega
  have absent : database.pool.residentFrame? (file.pageId tried) = none := by
    cases found : database.pool.residentFrame? (file.pageId tried) with
    | none => rfl
    | some entry =>
        have member := crowded _ (Pool.isCached_of_residentFrame? (found.trans rfl))
        exact absurd (TableFile.mem_firstPages.mp member).2 (Nat.lt_irrefl tried)
  have read : (database.entered locks transaction (file.pageId tried)).diskPage?
      (file.pageId tried) = some content := probing.diskPage? onDisk
  refine load_of_stuck probing.sound absent read ?_ ?_
  · have many := Pool.length_le_residentCount (file.nodup_firstPages tried) probing.probed
    rw [file.length_firstPages, full] at many
    exact many
  · rw [List.eq_nil_iff_forall_not_mem]
    intro page member
    obtain ⟨frame, old, found, _, free⟩ := Pool.mem_evictable.mp member
    have earlier := crowded page (Pool.isCached_of_residentFrame? found)
    have holds := probing.holder grants page
    rw [if_pos (TableFile.mem_firstPages_succ.mpr (Or.inl earlier))] at holds
    cases holds.symm.trans free

end

end

/-! ### Room for a whole table -/

section

variable {start database : Database} {journal : Journal} {file : TableFile} {number : Nat}
  (isolated : database.Isolated start journal)
  (registered : database.catalog.file file.id = .ok file)
  (own : ∀ page holder, database.pool.locks.exclusiveHolder? page = some holder →
    page.table = file.id)

include isolated registered own in
/-- A pool as large as the table has room for each of its pages: if it is full without one of them,
it has a page of another table, which nobody has to itself. -/
private theorem Isolated.room_of_ample
    (ample : file.pageCount database.volume ≤ database.pool.capacity)
    (inside : number < file.pageCount database.volume)
    (absent : database.pool.residentFrame? (file.pageId number) = none) :
    database.pool.residentCount < database.pool.capacity ∨ database.pool.evictable ≠ [] := by
  by_cases room : database.pool.residentCount < database.pool.capacity
  · exact Or.inl room
  · right
    let others := (file.firstPages (file.pageCount database.volume)).erase (file.pageId number)
    have member : file.pageId number ∈ file.firstPages (file.pageCount database.volume) :=
      TableFile.mem_firstPages.mpr ⟨rfl, inside⟩
    have fewer : others.length < database.pool.residentCount := by
      rw [List.length_erase_of_mem member, TableFile.length_firstPages]
      omega
    obtain ⟨page, cached, foreign⟩ := Pool.exists_cached_of_lt fewer
    obtain ⟨frame, content, found⟩ := isolated.sound.exists_of_isCached cached
    have elsewhere : page.table ≠ file.id := by
      intro mine
      rw [← mine] at registered
      have present := isolated.lt_pageCount found registered
      apply foreign
      refine (List.mem_erase_of_ne ?_).mpr (TableFile.mem_firstPages.mpr ⟨mine, present⟩)
      rintro rfl
      rw [absent] at found
      cases found
    have free : database.pool.locks.exclusiveHolder? page = none := by
      cases holder : database.pool.locks.exclusiveHolder? page with
      | none => rfl
      | some transaction => exact absurd (own page transaction holder) elsewhere
    have clean : content.owner = none := by
      cases owned : content.owner with
      | none => rfl
      | some owner =>
          have written := (isolated.dirty page frame content owner found owned).1
          have holds := Holders.modeOf?_eq_some_exclusive.mp (isolated.written owner page written)
          cases free.symm.trans holds
    exact List.ne_nil_of_mem (Pool.mem_evictable.mpr ⟨frame, content, found, clean, free⟩)

include isolated registered own in
theorem Isolated.load_of_ample (readable : database.Readable file.id)
    (ample : file.pageCount database.volume ≤ database.pool.capacity)
    (inside : number < file.pageCount database.volume) :
    ∃ loaded frame content,
      database.load (file.pageId number) = .ok (loaded, frame, content) := by
  cases found : database.pool.residentFrame? (file.pageId number) with
  | some entry => exact ⟨database, entry.1, entry.2, load_of_resident found⟩
  | none =>
      obtain ⟨content, read⟩ := (readable file registered).2 number inside
      have onDisk : database.diskPage? (file.pageId number) = some content :=
        diskPage?_eq_some.mpr ⟨file, registered, read⟩
      obtain ⟨loaded, frame, loads⟩ := load_of_room isolated.sound found onDisk
        (isolated.room_of_ample registered own ample inside found)
      exact ⟨loaded, frame, content, loads⟩

end

end Database

end RowStore
