import RowStore.Operation.Refusal
import RowStore.Proofs.Database.Strides
import RowStore.Proofs.Database.TaskMoves

/-!
Halts: an operation that the disk refuses has done what it does before, and has added part of a page
at most.
-/

set_option autoImplicit false

namespace RowStore

inductive Database.Frays (file? : Option TableFile) (database : Database) : Database → Prop where
  | none : Frays file? database database
  | part {file : TableFile} (own : file? = some file) (written : Nat) :
      Frays file? database (database.appendInPart file written)

inductive Database.Halts (database : Database) (task : Task) (reached : Database) : Prop where
  | behind (loaded : Database) (path : Path (fun _ => task.Readies) database loaded)
      (frays : loaded.Frays task.file? reached)

namespace Progress

section

variable {database reached : Database} {refusal : Refusal} {cause : DiskCause} {outcome : Outcome}

private theorem frays_advanceRefused? {insertion : Insertion} {tried : Nat}
    (refuses : insertion.advanceRefused? database tried refusal = some reached) :
    database.Frays (some insertion.file) reached := by
  unfold Insertion.advanceRefused? at refuses
  cases refusal with
  | reading => cases refuses
  | counting =>
      cases refuses
      exact .none
  | adding written =>
      dsimp only at refuses
      split at refuses
      · cases refuses
      · cases refuses
        exact .part rfl written

theorem frays_insertRefused? {transaction : TransactionId} {file : TableFile} {row : Row}
    (refuses : insertRefused? database refusal cause transaction file row =
      some (reached, outcome)) :
    database.Frays (some file) reached ∧ outcome = .failed (.disk cause) := by
  unfold insertRefused? at refuses
  split at refuses
  · obtain ⟨advanced, advances, same⟩ := Option.map_eq_some_iff.mp refuses
    cases same
    exact ⟨frays_advanceRefused? advances, rfl⟩
  · cases refuses

theorem frays_skipRefused? {insertion : Insertion}
    (refuses : insertion.skipRefused? database refusal = some reached) :
    database.Frays (some insertion.file) reached := by
  unfold Insertion.skipRefused? at refuses
  split at refuses
  · cases refuses
  · exact frays_advanceRefused? refuses

theorem scanRefused?_eq_some {scan : Scan} {left : Nat} {rows : List Row}
    (refuses : scanRefused? database refusal cause scan left rows = some (reached, outcome)) :
    reached = database ∧ scan.current.length < left ∧ refusal = .counting ∧
      outcome = .scanned { scan with current := [] } (rows ++ scan.current)
        (some (.failed (.disk cause))) := by
  unfold scanRefused? Scan.give at refuses
  dsimp only at refuses
  split at refuses
  · cases refuses
  · rename_i few
    rw [List.length_take] at few
    have all : scan.current.length < left := by omega
    cases refusal with
    | counting =>
        cases refuses
        rw [List.take_of_length_le (Nat.le_of_lt all), List.drop_eq_nil_of_le (Nat.le_of_lt all)]
        exact ⟨rfl, all, rfl, rfl⟩
    | reading => cases refuses
    | adding written => cases refuses

/-- An operation that is refused before it needs a lock has done nothing, or has added part of a
page to the file that it brings along or that is registered. -/
theorem frays_ofOperationRefused? {operation : Operation}
    (refuses : ofOperationRefused? database refusal cause operation = some (reached, outcome)) :
    ∃ file?, database.Frays file? reached ∧ ∀ file, file? = some file →
      operation.file? = some file ∨ ∃ table, database.catalog.file table = .ok file := by
  unfold ofOperationRefused? at refuses
  cases operation with
  | insert transaction table row =>
      dsimp only at refuses
      cases registered : database.catalog.file table with
      | error fault =>
          rw [registered] at refuses
          cases refuses
      | ok file =>
          rw [registered] at refuses
          refine ⟨some file, (frays_insertRefused? refuses).1, ?_⟩
          intro own same
          cases same
          exact .inr ⟨table, registered⟩
  | insertInto transaction file row =>
      refine ⟨some file, (frays_insertRefused? refuses).1, ?_⟩
      intro own same
      cases same
      exact .inl rfl
  | scan scan count =>
      obtain ⟨rfl, _⟩ := scanRefused?_eq_some refuses
      exact ⟨none, .none, nofun⟩
  | _ => cases refuses

/-- A task that loads a page is refused before it has the page, or behind that. -/
private theorem halts_loadRefused? (task : Task) (steady : database.Steady)
    {transaction : TransactionId} {page : PageId} {access : Access}
    (request : task.request = ⟨transaction, page, access.mode⟩)
    (permits : database.pool.locks.Permits task.request)
    {onwards : Database → Page → Option (Database × Outcome)}
    (behind : ∀ loaded content, onwards loaded content = some (reached, outcome) →
      loaded.Frays task.file? reached)
    (refuses : loadRefused? (database.noteAccess transaction page access) refusal cause task
      onwards = some (reached, outcome)) : database.Halts task reached := by
  obtain ⟨noted, loadsOn⟩ := Database.path_reach task steady request permits
  have own : task.request.page = page := by rw [request]
  have onwardsOf (loaded : Database) (frame : Nat) (content : Page)
      (loads : (database.noteAccess transaction page access).load page =
        .ok (loaded, frame, content))
      (goes : onwards loaded content = some (reached, outcome)) : database.Halts task reached :=
    .behind loaded (loadsOn loaded frame content loads).1 (behind loaded content goes)
  unfold loadRefused? at refuses
  rw [own] at refuses
  cases refusal with
  | reading =>
      dsimp only at refuses
      split at refuses
      · cases refuses
        exact .behind _ noted .none
      · cases refuses
  | _ =>
      dsimp only at refuses
      cases loads : (database.noteAccess transaction page access).load page with
      | error fault =>
          rw [loads] at refuses
          cases refuses
      | ok answer =>
          obtain ⟨loaded, frame, content⟩ := answer
          rw [loads] at refuses
          exact onwardsOf loaded frame content loads refuses

/-- A task that is refused has loaded its page at most, and added part of a page to its file. -/
theorem halts_ofTaskRefused? {task : Task} (steady : database.Steady)
    (permits : database.pool.locks.Permits task.request)
    (refuses : ofTaskRefused? database refusal cause task = some (reached, outcome)) :
    database.Halts task reached := by
  unfold ofTaskRefused? at refuses
  cases task with
  | locking request => cases refuses
  | filling insertion table left stored last => cases refuses
  | fetching transaction page access =>
      refine halts_loadRefused? _ steady rfl permits ?_ refuses
      intro _ _ impossible
      cases impossible
  | deleting transaction row page handover =>
      refine @halts_loadRefused? _ _ _ _ _ _ steady _ _ .write rfl permits _ ?_ refuses
      intro _ _ impossible
      cases impossible
  | inserting insertion handover =>
      refine @halts_loadRefused? _ _ _ _ _ _ steady _ _ .write rfl permits _ ?_ refuses
      intro loaded content goes
      split at goes
      · obtain ⟨skipped, skips, same⟩ := Option.map_eq_some_iff.mp goes
        cases same
        exact frays_skipRefused? skips
      · cases goes
  | scanning scan left rows =>
      refine @halts_loadRefused? _ _ _ _ _ _ steady _ _ .read rfl permits _ ?_ refuses
      intro loaded content goes
      obtain ⟨rfl, _⟩ := scanRefused?_eq_some goes
      exact .none

end

end Progress

end RowStore
