import RowStore.Proofs.Database.Rest

/-!
Browsing: a transaction that only reads, while nobody else holds a page, finds every page as it is
on the disk, and the pool has room for it or can make some.
-/

set_option autoImplicit false

namespace RowStore.Database

structure Browsing (database : Database) (reader : TransactionId) : Prop where
  sound : database.pool.Sound
  fits : database.pool.Fits
  roomy : 0 < database.pool.capacity
  clean : ∀ page frame content, database.pool.residentFrame? page = some (frame, content) →
    database.diskPage? page = some content
  alone : database.pool.locks.Alone reader
  unguarded : ∀ page, database.pool.locks.exclusiveHolder? page = none

theorem AtRest.browsing {database : Database} (rest : database.AtRest)
    (roomy : 0 < database.pool.capacity) (reader : TransactionId) : database.Browsing reader :=
  ⟨rest.sound, rest.fits, roomy, rest.clean, rest.alone reader, rest.exclusiveHolder?⟩

section

variable {database : Database} {reader : TransactionId} {page : PageId} {content : Page}

private theorem Browsing.room (browsing : database.Browsing reader) :
    database.pool.residentCount < database.pool.capacity ∨ database.pool.evictable ≠ [] := by
  by_cases room : database.pool.residentCount < database.pool.capacity
  · exact Or.inl room
  · right
    have some : ([] : List PageId).length < database.pool.residentCount :=
      Nat.lt_of_lt_of_le browsing.roomy (Nat.not_lt.mp room)
    obtain ⟨other, cached, _⟩ := Pool.exists_cached_of_lt some
    obtain ⟨frame, old, found⟩ := browsing.sound.exists_of_isCached cached
    obtain ⟨file, _, read⟩ := diskPage?_eq_some.mp (browsing.clean other frame old found)
    have unowned := (TableFile.wellFormed_of_readPage read).2.2.2.2.1
    exact List.ne_nil_of_mem
      (Pool.mem_evictable.mpr ⟨frame, old, found, unowned, browsing.unguarded other⟩)

private theorem Browsing.grant (browsing : database.Browsing reader) {locks : LockTable}
    (grants : database.pool.locks.Grants locks ⟨reader, page, .shared⟩)
    (alone : locks.Alone reader) : (database.setLocks locks).Browsing reader := by
  refine ⟨browsing.sound, browsing.fits, browsing.roomy, browsing.clean, alone, ?_⟩
  intro other
  change locks.exclusiveHolder? other = none
  rw [grants.exclusiveHolder?, if_neg (fun both => by cases both.2)]
  exact browsing.unguarded other

private theorem Browsing.load (browsing : database.Browsing reader)
    (onDisk : database.diskPage? page = some content) :
    ∃ loaded frame, database.load page = .ok (loaded, frame, content) ∧
      loaded.Browsing reader ∧ loaded.volume = database.volume ∧
        loaded.catalog = database.catalog := by
  obtain ⟨loaded, frame, loads⟩ : ∃ loaded frame,
      database.load page = .ok (loaded, frame, content) := by
    cases found : database.pool.residentFrame? page with
    | some entry =>
        obtain ⟨frame, old⟩ := entry
        cases (browsing.clean page frame old found).symm.trans onDisk
        exact ⟨database, frame, load_of_resident found⟩
    | none => exact load_of_room browsing.sound found onDisk browsing.room
  obtain ⟨pool, rfl, takes, _⟩ := load_cases browsing.sound loads
  refine ⟨_, frame, loads, ?_, rfl, rfl⟩
  refine ⟨takes.sound, takes.keeps.fits browsing.fits, ?_, ?_, ?_, ?_⟩
  · dsimp only
    rw [takes.keeps.capacity]
    exact browsing.roomy
  · intro other held old found
    rcases takes.cases found with ⟨rfl, _, rfl⟩ | before
    · exact onDisk
    · exact browsing.clean other held old before
  · dsimp only
    rw [takes.locks]
    exact browsing.alone
  · intro other
    dsimp only
    rw [takes.locks]
    exact browsing.unguarded other

/-- The reader is granted the next page at once, and finds there what is on the disk. -/
theorem Browsing.enter (browsing : database.Browsing reader) (ticket : Nat)
    (onDisk : database.diskPage? page = some content) :
    ∃ locks loaded frame,
      database.pool.locks.acquire ticket ⟨reader, page, .shared⟩ = (locks, .granted) ∧
      (database.setLocks locks).load page = .ok (loaded, frame, content) ∧
      loaded.Browsing reader ∧ loaded.volume = database.volume ∧
        loaded.catalog = database.catalog := by
  have own : (⟨reader, page, .shared⟩ : LockRequest).transaction = reader := rfl
  obtain ⟨locks, acquires, grants, alone⟩ := browsing.alone.acquire ticket own
  obtain ⟨loaded, frame, loads, next, volume, catalog⟩ := (browsing.grant grants alone).load onDisk
  exact ⟨locks, loaded, frame, acquires, loads, next, volume, catalog⟩

end

end RowStore.Database
