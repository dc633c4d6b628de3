import RowStore.Proofs.Database.Room
import RowStore.Proofs.Engine.Isolation
import RowStore.Proofs.Lock.Undisturbed

/-!
Turns of one operation: each step of it under a lock that is granted at once, up to its end. The
bound on turns leaves one for every page of a table, and for a page that is added.
-/

set_option autoImplicit false

namespace RowStore.Engine

section

variable {engine : Engine} {ticket : Nat}

theorem tasks_note_waiting (engine : Engine) (ticket : Nat) (database : Database) (task : Task) :
    (engine.note ticket database (.waiting task)).1.tasks[ticket]? = some task := by
  rw [tasks_note, if_pos rfl]
  rfl

theorem submit_of_waiting {operation : Operation} {begun : Database} {task : Task}
    (begins : Progress.ofOperation engine.database operation = (begun, .waiting task)) :
    engine.submit ticket operation =
      (engine.note ticket begun (.waiting task)).1.run ticket := by
  unfold submit begin
  rw [begins]
  rfl

theorem submit_of_finished {operation : Operation} {begun : Database} {outcome : Outcome}
    (begins : Progress.ofOperation engine.database operation = (begun, .finished outcome)) :
    engine.submit ticket operation =
      ((engine.note ticket begun (.finished outcome)).1, some outcome) := by
  unfold submit begin
  rw [begins]
  rfl

theorem turn_of_granted {task : Task} (found : engine.tasks[ticket]? = some task)
    {locks : LockTable}
    (acquires : engine.database.pool.locks.acquire ticket task.request = (locks, .granted)) :
    engine.turn ticket =
      engine.note ticket (Progress.ofTask (engine.database.setLocks locks) task).1
        (Progress.ofTask (engine.database.setLocks locks) task).2 := by
  unfold turn
  rw [found]
  dsimp only
  rw [acquires]

theorem turns_of_finished {next : Engine} {outcome : Outcome}
    (turns : engine.turn ticket = (next, .finished outcome)) (bound : Nat) :
    engine.turns ticket (bound + 1) = (next, some outcome) := by
  unfold Engine.turns
  rw [turns]

theorem turns_of_underWay {next : Engine} (turns : engine.turn ticket = (next, .underWay))
    (bound : Nat) : engine.turns ticket (bound + 1) = next.turns ticket bound := by
  rw [Engine.turns, turns]

/-! ### The bound on turns -/

private theorem length_le_foldl (entries : List (String × List UInt8)) (before : Nat)
    {path : String} {bytes : List UInt8} (member : (path, bytes) ∈ entries) :
    bytes.length ≤ entries.foldl (fun total entry => total + entry.2.length) before := by
  have grows (total : Nat) (rest : List (String × List UInt8)) :
      total ≤ rest.foldl (fun total entry => total + entry.2.length) total := by
    induction rest generalizing total with
    | nil => exact Nat.le_refl _
    | cons entry rest ih => exact Nat.le_trans (Nat.le_add_right _ _) (ih _)
  induction entries generalizing before with
  | nil => cases member
  | cons entry rest ih =>
      rcases List.mem_cons.mp member with rfl | later
      · exact Nat.le_trans (Nat.le_add_left _ _) (grows _ rest)
      · exact ih _ later

theorem pageCount_le_turnBound (engine : Engine) (ticket : Nat) (file : TableFile) :
    file.pageCount engine.database.volume + 2 ≤ engine.turnBound ticket := by
  have pages : file.pageCount engine.database.volume ≤
      engine.database.volume.files.toList.foldl
        (fun total entry => total + entry.2.length) 0 := by
    unfold TableFile.pageCount PagedFile.pageCount TableFile.pages
    refine Nat.le_trans (Nat.div_le_self _ _) ?_
    dsimp only
    cases found : engine.database.volume.files[file.path]? with
    | none =>
        unfold Volume.bytes
        rw [Std.ExtTreeMap.getD_eq_getD_getElem?, found]
        exact Nat.zero_le _
    | some bytes =>
        unfold Volume.bytes
        rw [Std.ExtTreeMap.getD_eq_getD_getElem?, found]
        exact length_le_foldl _ 0 (Std.ExtTreeMap.mem_toList_iff_getElem?_eq_some.mpr found)
  unfold turnBound
  dsimp only
  rw [Nat.succ_mul]
  omega

theorem exists_turnBound_eq_succ (engine : Engine) (ticket : Nat) :
    ∃ bound, engine.turnBound ticket = bound + 1 := by
  unfold turnBound
  exact ⟨_, (Nat.succ_pred_eq_of_pos (Nat.mul_pos (Nat.succ_pos _) (Nat.succ_pos _))).symm⟩

/-! ### Fetching -/

theorem submit_of_granted {operation : Operation} {begun next : Database} {task : Task}
    {locks : LockTable} {outcome : Outcome}
    (begins : Progress.ofOperation engine.database operation = (begun, .waiting task))
    (acquires : begun.pool.locks.acquire ticket task.request = (locks, .granted))
    (goes : Progress.ofTask (begun.setLocks locks) task = (next, .finished outcome)) :
    (engine.submit ticket operation).2 = some outcome := by
  have turns := turn_of_granted (engine.tasks_note_waiting ticket begun task) acquires
  rw [database_note, goes] at turns
  obtain ⟨bound, enough⟩ :=
    exists_turnBound_eq_succ (engine.note ticket begun (.waiting task)).1 ticket
  rw [submit_of_waiting begins]
  unfold run
  rw [enough, turns_of_finished turns]

/-- A page that nobody holds in another mode, and that there is room for, is fetched at once. -/
theorem submit_fetch {transaction : TransactionId} {page : PageId} {access : Access}
    {content : Page} (unused : engine.database.pool.locks.sleepers[ticket]? = none)
    (unopposed : (engine.database.pool.locks.holders page).opposing transaction access.mode = [])
    (sound : engine.database.pool.Sound)
    (absent : engine.database.pool.residentFrame? page = none)
    (onDisk : engine.database.diskPage? page = some content)
    (room : engine.database.pool.residentCount < engine.database.pool.capacity) :
    ∃ frame, (engine.submit ticket (.fetch transaction page access)).2 =
      some (.fetched frame content) := by
  obtain ⟨locks, acquires, _⟩ :=
    LockTable.acquire_of_unopposed unused ⟨transaction, page, access.mode⟩ unopposed
  obtain ⟨loaded, frame, loads⟩ : ∃ loaded frame,
      ((engine.database.setLocks locks).noteAccess transaction page access).load page =
        .ok (loaded, frame, content) := by
    cases access with
    | read => exact Database.load_of_room sound absent onDisk (Or.inl room)
    | write => exact Database.load_of_room sound absent onDisk (Or.inl room)
  have fetches : Progress.ofTask (engine.database.setLocks locks)
      (.fetching transaction page access) = (loaded, .finished (.fetched frame content)) := by
    unfold Progress.ofTask Progress.fetch
    dsimp only
    rw [loads]
  exact ⟨frame, submit_of_granted rfl acquires fetches⟩

end

end RowStore.Engine
