import RowStore.Database.Pages
import RowStore.Proofs.Database.Contents
import RowStore.Proofs.Pool

/-!
Room: a page that is not in the pool can be loaded unless the pool is full of pages that have
changes or that a transaction has to itself.
-/

set_option autoImplicit false

namespace RowStore

/-! ### Pools -/

namespace Pool

theorem makeRoom_of_evictable {pool : Pool} (drops : pool.evictable ≠ []) :
    ∃ roomy, pool.makeRoom = .ok roomy := by
  unfold makeRoom
  split
  · exact ⟨pool, rfl⟩
  · have inside : pool.preference pool.evictions % pool.evictable.length <
        pool.evictable.length := Nat.mod_lt _ (List.length_pos_iff.mpr drops)
    have picked : pool.victim? = some _ := List.getElem?_eq_getElem inside
    rw [picked]
    exact ⟨_, rfl⟩

theorem makeRoom_of_stuck {pool : Pool} (full : pool.capacity ≤ pool.residentCount)
    (stuck : pool.evictable = []) : pool.makeRoom = .error (.poolExhausted pool.capacity) := by
  unfold makeRoom victim?
  rw [if_neg (Nat.not_lt.mpr full), stuck]
  rfl

theorem install_of_room {pool roomy : Pool} {page : PageId} (absent : pool.isCached page = false)
    (makes : pool.makeRoom = .ok roomy) (frame : Nat) :
    pool.install page frame =
      .ok { roomy with resident := roomy.resident.insert page frame } := by
  unfold install
  rw [absent]
  simp only [Bool.false_eq_true, if_false, bind, Except.bind, makes, pure, Except.pure]

end Pool

/-! ### Loading -/

namespace Database

section

variable {database : Database} {page : PageId} {content : Page}

theorem load_of_resident {frame : Nat}
    (found : database.pool.residentFrame? page = some (frame, content)) :
    database.load page = .ok (database, frame, content) := by
  unfold load
  rw [found]

private theorem load_of_absent (absent : database.pool.residentFrame? page = none)
    (onDisk : database.diskPage? page = some content) :
    database.load page = (database.pool.installNew content).map
      (fun installed => ({ database with pool := installed.1 }, installed.2, content)) := by
  obtain ⟨file, registered, read⟩ := diskPage?_eq_some.mp onDisk
  unfold load
  rw [absent, registered]
  simp only [bind, Except.bind, read]
  cases database.pool.installNew content <;> rfl

private theorem isCached_of_absent (sound : database.pool.Sound)
    (absent : database.pool.residentFrame? page = none)
    (onDisk : database.diskPage? page = some content) :
    database.pool.isCached content.id = false := by
  obtain ⟨file, _, read⟩ := diskPage?_eq_some.mp onDisk
  rw [(TableFile.wellFormed_of_readPage read).2.1]
  exact sound.isCached_eq_false absent

/-- A page on the disk can be loaded if the pool has room or can make some. -/
theorem load_of_room (sound : database.pool.Sound)
    (absent : database.pool.residentFrame? page = none)
    (onDisk : database.diskPage? page = some content)
    (room : database.pool.residentCount < database.pool.capacity ∨
      database.pool.evictable ≠ []) :
    ∃ loaded frame, database.load page = .ok (loaded, frame, content) := by
  obtain ⟨roomy, makes⟩ : ∃ roomy, database.pool.makeRoom = .ok roomy := by
    rcases room with room | drops
    · refine ⟨database.pool, ?_⟩
      unfold Pool.makeRoom
      rw [if_pos room]
    · exact Pool.makeRoom_of_evictable drops
  have installs := Pool.install_of_room (isCached_of_absent sound absent onDisk) makes
  rw [load_of_absent absent onDisk]
  unfold Pool.installNew
  rw [installs]
  exact ⟨_, _, rfl⟩

theorem load_of_stuck (sound : database.pool.Sound)
    (absent : database.pool.residentFrame? page = none)
    (onDisk : database.diskPage? page = some content)
    (full : database.pool.capacity ≤ database.pool.residentCount)
    (stuck : database.pool.evictable = []) :
    database.load page = .error (.poolExhausted database.pool.capacity) := by
  have uncached := isCached_of_absent sound absent onDisk
  rw [load_of_absent absent onDisk]
  unfold Pool.installNew Pool.install
  rw [uncached, Pool.makeRoom_of_stuck full stuck]
  rfl

theorem absorb_of_resident {transaction : TransactionId} {frame : Nat}
    (found : database.pool.residentFrame? page = some (frame, content)) (id : content.id = page)
    (owned : content.owner = some transaction) :
    database.absorb transaction frame content =
      (database.noteAccess transaction page .write, .ok ()) := by
  have unmarked : content.mark (some transaction) = content := by
    unfold Page.mark
    rw [← owned]
  have same : database.setFrame frame content = database := by
    unfold setFrame
    rw [Pool.setFrame_self found]
  have resident : (database.noteAccess transaction page .write).pool.residentFrame? page =
      some (frame, content) := found
  unfold Database.absorb
  rw [unmarked, same, id]
  dsimp only
  rw [Pool.install_resident resident]

end

end Database

end RowStore
