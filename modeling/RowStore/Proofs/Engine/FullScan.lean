import RowStore.Proofs.Database.Browsing
import RowStore.Proofs.Database.Listing
import RowStore.Proofs.Engine.Turns

/-!
Full scans: a scan of a database at rest that is asked for more rows than there are comes to every
page of the table, and gives out all its rows in order.
-/

set_option autoImplicit false

namespace RowStore

/-- A scan that has fewer rows left than it is asked for gives them all out. It is at its end then,
or goes on to the next page. -/
theorem Progress.scanNext_of_lt (database : Database) {scan : Scan} {left : Nat} (rows : List Row)
    (few : scan.current.length < left) :
    Progress.scanNext database scan left rows =
      if scan.file.pageCount database.volume ≤ scan.nextPage then
        (database, .finished (.scanned { scan with current := [] } (rows ++ scan.current)
          (some .atEnd)))
      else (database, .waiting (.scanning { scan with current := [] }
        (left - scan.current.length) (rows ++ scan.current))) := by
  have given : scan.give left = ({ scan with current := [] }, scan.current) := by
    unfold Scan.give
    rw [List.take_of_length_le (Nat.le_of_lt few), List.drop_of_length_le (Nat.le_of_lt few)]
  unfold Progress.scanNext
  rw [given]
  dsimp only
  rw [if_neg (Nat.ne_of_lt few)]
  unfold Scan.isAtEnd
  simp only [decide_eq_true_eq]

theorem Progress.scan_of_load {database loaded : Database} {file : TableFile}
    {reader : TransactionId} {number frame left : Nat} {content : Page}
    (loads : database.load (file.pageId number) = .ok (loaded, frame, content)) (rows : List Row)
    (few : content.rows.length < left) :
    Progress.scan database ⟨file, reader, number, []⟩ left rows =
      if file.pageCount loaded.volume ≤ number + 1 then
        (loaded, .finished (.scanned ⟨file, reader, number + 1, []⟩ (rows ++ content.rows)
          (some .atEnd)))
      else (loaded, .waiting (.scanning ⟨file, reader, number + 1, []⟩
        (left - content.rows.length) (rows ++ content.rows))) := by
  have taken : ((⟨file, reader, number, []⟩ : Scan).take content).current.length < left := few
  unfold Progress.scan Scan.page
  dsimp only
  rw [loads]
  exact Progress.scanNext_of_lt loaded rows taken

namespace Engine

/-- What comes of a scan that gave out these rows, up to the last page. -/
def scannedWhole (database : Database) (file : TableFile) (reader : TransactionId)
    (rows : List Row) : Outcome :=
  .scanned ⟨file, reader, file.pageCount database.volume, []⟩ rows (some .atEnd)

section

variable {start : Database} {file : TableFile} {reader : TransactionId} {ticket : Nat}
  (registered : start.catalog.file file.id = .ok file)
  (readable : ∀ number, number < file.pageCount start.volume →
    ∃ content, file.readPage start.volume (file.pageId number) = .ok content)

include registered readable in
private theorem turns_scanning {engine : Engine} {number left bound : Nat} {rows : List Row}
    (volume : engine.database.volume = start.volume)
    (catalog : engine.database.catalog = start.catalog)
    (browsing : engine.database.Browsing reader)
    (found : engine.tasks[ticket]? = some (.scanning ⟨file, reader, number, []⟩ left rows))
    (inside : number < file.pageCount start.volume)
    (many : (file.rowsFrom start.volume number).length < left)
    (enough : file.pageCount start.volume ≤ bound + number) :
    (engine.turns ticket bound).2 =
      some (scannedWhole start file reader (rows ++ file.rowsFrom start.volume number)) := by
  induction bound generalizing engine number left rows with
  | zero => omega
  | succ bound ih =>
      obtain ⟨content, read⟩ := readable number inside
      have onDisk : engine.database.diskPage? (file.pageId number) = some content := by
        refine Database.diskPage?_eq_some.mpr ⟨file, ?_, ?_⟩
        · rw [catalog]
          exact registered
        · rw [volume]
          exact read
      obtain ⟨locks, loaded, frame, acquires, loads, next, sameVolume, sameCatalog⟩ :=
        browsing.enter ticket onDisk
      have pages := TableFile.rowsFrom_of_lt inside
      rw [TableFile.rowsAt_of_readPage read] at pages
      rw [pages, List.length_append] at many
      have few : content.rows.length < left := by omega
      have turns : engine.turn ticket =
          engine.note ticket
            (Progress.scan (engine.database.setLocks locks) ⟨file, reader, number, []⟩ left rows).1
            (Progress.scan (engine.database.setLocks locks)
              ⟨file, reader, number, []⟩ left rows).2 := turn_of_granted found acquires
      rw [Progress.scan_of_load loads rows few, sameVolume, volume] at turns
      by_cases more : number + 1 < file.pageCount start.volume
      · rw [if_neg (Nat.not_le.mpr more)] at turns
        rw [turns_of_underWay turns, pages, ← List.append_assoc]
        exact ih (sameVolume.trans volume) (sameCatalog.trans catalog) next
          (tasks_note_waiting engine ticket loaded _) more (by omega) (by omega)
      · have last : number + 1 = file.pageCount start.volume := by omega
        rw [if_pos (Nat.le_of_eq last.symm)] at turns
        rw [turns_of_finished turns, pages, TableFile.rowsFrom_of_le (Nat.le_of_eq last.symm),
          List.append_nil, last]
        rfl

end

/-- A scan that is asked for more rows than the table has gives out all of them. -/
theorem submit_full_scan (engine : Engine) (rest : engine.database.AtRest)
    (roomy : 0 < engine.database.pool.capacity) {file : TableFile}
    (registered : engine.database.catalog.file file.id = .ok file)
    (readable : ∀ number, number < file.pageCount engine.database.volume →
      ∃ content, file.readPage engine.database.volume (file.pageId number) = .ok content)
    (reader : TransactionId) (ticket : Nat) {count : Nat}
    (many : (file.rowsFrom engine.database.volume 0).length < count) :
    (engine.submit ticket (.scan (Scan.start file reader) count)).2 =
      some (scannedWhole engine.database file reader (file.rowsFrom engine.database.volume 0)) := by
  have few : (Scan.start file reader).current.length < count :=
    Nat.lt_of_le_of_lt (Nat.zero_le _) many
  have begins : Progress.ofOperation engine.database (.scan (Scan.start file reader) count) =
      if file.pageCount engine.database.volume ≤ 0 then
        (engine.database, .finished (.scanned ⟨file, reader, 0, []⟩ [] (some .atEnd)))
      else (engine.database, .waiting (.scanning ⟨file, reader, 0, []⟩ count [])) :=
    Progress.scanNext_of_lt engine.database [] few
  by_cases some : 0 < file.pageCount engine.database.volume
  · rw [if_neg (Nat.not_le.mpr some)] at begins
    have enough := pageCount_le_turnBound (engine.note ticket engine.database (.waiting
      (.scanning ⟨file, reader, 0, []⟩ count []))).1 ticket file
    rw [database_note] at enough
    rw [submit_of_waiting begins]
    unfold run
    change _ = Option.some (scannedWhole engine.database file reader
      ([] ++ file.rowsFrom engine.database.volume 0))
    exact turns_scanning registered readable rfl rfl (rest.browsing roomy reader)
      (tasks_note_waiting engine ticket _ _) some many (by omega)
  · have none : file.pageCount engine.database.volume = 0 := Nat.eq_zero_of_not_pos some
    rw [if_pos (Nat.le_of_eq none)] at begins
    rw [submit_of_finished begins, TableFile.rowsFrom_of_le (Nat.le_of_eq none)]
    unfold scannedWhole
    rw [none]

end Engine

end RowStore
