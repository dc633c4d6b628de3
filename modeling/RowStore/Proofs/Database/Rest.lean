import Mathlib.Data.List.Perm.Subperm
import RowStore.Proofs.Database.Completion
import RowStore.Proofs.Lock.Undisturbed

/-!
Databases at rest: no page is locked, no request sleeps, and what is in the pool is as on the disk.
A database is at rest when it has been set up, and whenever no transaction holds or waits for a
page.
-/

set_option autoImplicit false

namespace RowStore

/-! ### Counting pages -/

namespace Pool

variable {pool : Pool} {pages : List PageId}

theorem length_le_residentCount (distinct : pages.Nodup)
    (cached : ∀ page ∈ pages, pool.isCached page = true) :
    pages.length ≤ pool.residentCount := by
  unfold residentCount
  rw [← Std.ExtTreeMap.length_keys]
  apply distinct.length_le_of_subset
  intro page member
  exact Std.ExtTreeMap.mem_keys.mpr (Std.ExtTreeMap.mem_iff_contains.mpr (cached page member))

theorem exists_cached_of_lt (fewer : pages.length < pool.residentCount) :
    ∃ page, pool.isCached page = true ∧ page ∉ pages := by
  by_contra none
  have within : pool.resident.keys ⊆ pages := by
    intro page member
    by_contra outside
    have cached := Std.ExtTreeMap.mem_iff_contains.mp (Std.ExtTreeMap.mem_keys.mp member)
    exact none ⟨page, cached, outside⟩
  have bound := Std.ExtTreeMap.nodup_keys.length_le_of_subset within
  rw [Std.ExtTreeMap.length_keys] at bound
  exact Nat.not_le.mpr fewer bound

theorem Sound.exists_of_isCached (sound : pool.Sound) {page : PageId}
    (cached : pool.isCached page = true) :
    ∃ frame content, pool.residentFrame? page = some (frame, content) := by
  cases found : pool.residentFrame? page with
  | none =>
      rw [sound.isCached_eq_false found] at cached
      cases cached
  | some entry => exact ⟨entry.1, entry.2, rfl⟩

end Pool

/-! ### At rest -/

namespace Database

structure AtRest (database : Database) : Prop where
  sound : database.pool.Sound
  fits : database.pool.Fits
  clean : ∀ page frame content, database.pool.residentFrame? page = some (frame, content) →
    database.diskPage? page = some content
  free : ∀ transaction page, database.pool.locks.lockMode? transaction page = none
  awake : ∀ ticket : Nat, database.pool.locks.sleepers[ticket]? = none

theorem SetUp.atRest {database : Database} (setUp : database.SetUp) : database.AtRest := by
  obtain ⟨capacity, preference, fresh⟩ := setUp.pool
  constructor
  · exact setUp.isolated.sound
  · rw [fresh]
    exact Nat.zero_le capacity
  · intro page frame content found
    rw [setUp.absent] at found
    cases found
  · intro transaction page
    rw [fresh]
    simp [Pool.new, LockTable.empty, LockTable.lockMode?, LockTable.holders]
  · intro ticket
    rw [fresh]
    simp [Pool.new, LockTable.empty]

theorem Isolated.atRest {start database : Database} {journal : Journal}
    (isolated : database.Isolated start journal) (fits : database.pool.Fits)
    (free : ∀ transaction page, database.pool.locks.lockMode? transaction page = none)
    (awake : ∀ ticket : Nat, database.pool.locks.sleepers[ticket]? = none) : database.AtRest := by
  refine ⟨isolated.sound, fits, ?_, free, awake⟩
  intro page frame content found
  apply isolated.clean page frame content found
  cases owned : content.owner with
  | none => rfl
  | some owner =>
      obtain ⟨member, _⟩ := isolated.dirty page frame content owner found owned
      have alone := isolated.written owner page member
      rw [free] at alone
      cases alone

section

variable {database : Database}

theorem AtRest.alone (rest : database.AtRest) (transaction : TransactionId) :
    database.pool.locks.Alone transaction :=
  ⟨fun other page _ => rest.free other page, rest.awake⟩

theorem AtRest.exclusiveHolder? (rest : database.AtRest) (page : PageId) :
    database.pool.locks.exclusiveHolder? page = none := by
  cases holder : database.pool.locks.exclusiveHolder? page with
  | none => rfl
  | some transaction =>
      have holds : database.pool.locks.lockMode? transaction page = some .exclusive :=
        Holders.modeOf?_eq_some_exclusive.mpr holder
      rw [rest.free] at holds
      cases holds

/-- A database at rest is as one that was just set up on the disk as it is now. -/
theorem AtRest.isolated (rest : database.AtRest) {start : Database}
    (catalog : database.catalog = start.catalog)
    (unwritten : ∀ transaction, database.pool.writtenBy transaction = []) :
    database.Isolated { start with volume := database.volume } Journal.empty where
  catalog := catalog
  exclusive := by
    intro page
    left
    exact rest.exclusiveHolder? page
  sound := rest.sound
  written := by
    intro transaction page member
    rw [unwritten] at member
    cases member
  backs := fun page frame content found => backs_of_diskPage? (rest.clean page frame content found)
  clean := fun page frame content found _ => rest.clean page frame content found
  dirty := by
    intro page frame content owner found owned
    rw [owner_of_diskPage? (rest.clean page frame content found)] at owned
    cases owned
  pending := fun _ _ member => absurd member List.not_mem_nil
  disk := by
    funext record
    unfold Journal.onDisk Journal.empty stored diskPage?
    rw [catalog]
    rfl

end

end Database

end RowStore
