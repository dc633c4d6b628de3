import RowStore.Proofs.Database.Room
import RowStore.Proofs.Database.Upkeep
import RowStore.Proofs.Lock.Ownership

/-!
Completion: which bytes a commit changes on the disk, and what is left in the pool of a transaction
that has ended.
-/

set_option autoImplicit false

namespace RowStore.Database

/-- The page is in the pool with changes of the transaction. -/
def Modified (database : Database) (transaction : TransactionId) (page : PageId)
    (content : Page) : Prop :=
  ∃ frame, database.pool.residentFrame? page = some (frame, content) ∧
    content.owner = some transaction

/-- The disk has the pages that the transaction modified, and every other byte is as before. -/
structure Saves (database committed : Database) (transaction : TransactionId) : Prop where
  saved : ∀ page content, database.Modified transaction page content →
    ∃ file, database.catalog.file page.table = .ok file ∧
      (file.pages committed.volume).read page.number file.pageSize = .ok content.encode
  others : database.volume.Overwritten committed.volume (fun path offset =>
    ∃ page content, database.Modified transaction page content ∧ database.Spans page path offset)

/-- Nothing is left of the transaction, and what others modified is as before. -/
structure Forgets (database ended : Database) (transaction : TransactionId) : Prop where
  dropped : ∀ page ∈ database.pool.writtenBy transaction, ended.pool.isCached page = false
  written : ended.pool.written[transaction]? = none
  unlocked : ∀ page, ended.pool.locks.lockMode? transaction page = none ∧
    page ∉ ended.pool.locks.heldPages transaction
  others : ∀ owner page content, owner ≠ transaction → database.Modified owner page content →
    ended.pool.residentFrame? page = database.pool.residentFrame? page

section

variable {start database : Database} {journal : Journal} {transaction : TransactionId}

theorem Isolated.saves (isolated : database.Isolated start journal) {flushed : Database}
    (before : database.Flushed flushed (database.pool.writtenBy transaction)) :
    database.Saves (flushed.dismiss transaction) transaction := by
  constructor
  · rintro page content ⟨frame, found, owned⟩
    obtain ⟨member, _⟩ := isolated.dirty page frame content transaction found owned
    exact before.saved page member frame content found (by rw [Page.isDirty, owned]; rfl)
  · refine before.overwritten.mono ?_
    rintro path offset ⟨page, member, frame, content, found, dirty, inside⟩
    obtain ⟨owner, owned⟩ := Option.isSome_iff_exists.mp dirty
    have mine := isolated.owner_eq found owned (isolated.written transaction page member)
    exact ⟨page, content, ⟨frame, found, by rw [owned, mine]⟩, inside⟩

private theorem Isolated.forgets (isolated : database.Isolated start journal)
    (accounted : database.pool.locks.Accounted)
    (awake : database.pool.locks.sleeps transaction = false) {flushed : Database}
    {done : List PageId} (before : database.Flushed flushed done)
    (only : ∀ page ∈ done, page ∈ database.pool.writtenBy transaction) :
    database.Forgets (flushed.dismiss transaction) transaction := by
  have written : flushed.pool.writtenBy transaction = database.pool.writtenBy transaction := by
    unfold Pool.writtenBy
    rw [before.written]
  have locks := flushed.locks_dismiss transaction
  rw [before.locks] at locks
  have nothing := accounted.lockMode?_releaseAll_self transaction
  constructor
  · intro page member
    have sound : (flushed.dismiss transaction).pool.Sound := before.sound.discardEach _
    apply sound.isCached_eq_false
    rw [resident_dismiss, written, if_pos member]
  · change ((flushed.pool.discardEach _).written.erase transaction)[transaction]? = none
    exact Std.ExtTreeMap.getElem?_erase_self
  · intro page
    rw [locks]
    refine ⟨nothing page, ?_⟩
    rw [LockTable.mem_heldPages, (accounted.releaseAll awake).held_iff, nothing page]
    exact fun impossible => impossible rfl
  · rintro owner page content different ⟨frame, found, owned⟩
    have others : page ∉ database.pool.writtenBy transaction := by
      intro member
      have mine := isolated.owner_eq found owned (isolated.written transaction page member)
      exact different mine.symm
    have unflushed : page ∉ done := fun member => others (only page member)
    rw [resident_dismiss, written, if_neg others, before.resident, found]
    simp [unflushed]

theorem Isolated.commit_saves (isolated : database.Isolated start journal) (setUp : start.SetUp)
    (accounted : database.pool.locks.Accounted)
    (awake : database.pool.locks.sleeps transaction = false) :
    (database.commit transaction).2 = .ok () ∧
      database.Saves (database.commit transaction).1 transaction ∧
        database.Forgets (database.commit transaction).1 transaction := by
  obtain ⟨flushed, writes, before⟩ :=
    isolated.flushEach setUp (.nothing isolated.sound) (database.pool.writtenBy transaction)
  rw [List.nil_append] at before
  unfold Database.commit flushTransaction
  rw [writes]
  exact ⟨rfl, isolated.saves before,
    isolated.forgets accounted awake before (fun _ member => member)⟩

theorem Isolated.abort_forgets (isolated : database.Isolated start journal)
    (accounted : database.pool.locks.Accounted)
    (awake : database.pool.locks.sleeps transaction = false) :
    database.Forgets (database.abort transaction) transaction :=
  isolated.forgets accounted awake (.nothing isolated.sound)
    (fun _ impossible => absurd impossible (List.not_mem_nil))

/-! ### Reading back -/

/-- A page that the transaction modified can be read from the disk, nobody holds it once the
transaction was aborted, and there is room for it in the pool. -/
theorem Isolated.reread_of_modified (isolated : database.Isolated start journal)
    (accounted : database.pool.locks.Accounted) (fits : database.pool.Fits) {page : PageId}
    {content : Page} (modified : database.Modified transaction page content) :
    ((database.abort transaction).pool.residentFrame? page = none ∧
      ∃ onDisk, database.diskPage? page = some onDisk) ∧
    (database.abort transaction).pool.residentCount <
      (database.abort transaction).pool.capacity ∧
    ∀ other, (database.abort transaction).pool.locks.lockMode? other page = none := by
  obtain ⟨frame, found, owned⟩ := modified
  obtain ⟨member, _⟩ := isolated.dirty page frame content transaction found owned
  obtain ⟨_, onDisk, read, _⟩ := isolated.backs page frame content found
  rw [isolated.sound.id_eq found] at read
  refine ⟨⟨?_, onDisk, read⟩, ?_, ?_⟩
  · exact (database.resident_dismiss transaction page).trans (if_pos member)
  · have fewer := Pool.residentCount_discardEach (Pool.isCached_of_residentFrame? found) member
    have capacity :=
      (database.pool.keeps_discardEach (database.pool.writtenBy transaction)).capacity
    change (database.pool.discardEach (database.pool.writtenBy transaction)).residentCount <
      (database.pool.discardEach (database.pool.writtenBy transaction)).capacity
    rw [capacity]
    exact Nat.lt_of_lt_of_le fewer fits
  · intro other
    change (database.dismiss transaction).pool.locks.lockMode? other page = none
    rw [locks_dismiss, LockTable.lockMode?_releaseAll]
    have alone := isolated.written transaction page member
    cases holds : database.pool.locks.lockMode? other page with
    | none => exact ite_self none
    | some held =>
        have mine := (isolated.exclusive page).eq_of_modeOf? alone holds
        subst mine
        rw [if_pos]
        refine ⟨rfl, LockTable.mem_heldPages.mpr ?_⟩
        rw [accounted.held_iff, alone]
        exact fun impossible => by cases impossible

end

end RowStore.Database
