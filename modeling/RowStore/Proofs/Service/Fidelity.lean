import RowStore.Proofs.Database.Samples
import RowStore.Proofs.Service.Ordinary

/-!
Fidelity of histories: a page without changes is in the pool as it would be read from the disk, but
for long texts, of which the disk has only a leading part. A page with more of a text than the disk
has was written back for a transaction that goes on. It stays in the pool until that transaction
ends, and with it the lock that keeps others from the page.
-/

set_option autoImplicit false

namespace RowStore

/-- The disk has room for the whole of each text. -/
def Row.Fits (row : Row) : Prop :=
  ∀ text, Field.string text ∈ row.fields → (Utf8.encode text).length ≤ 128

theorem Row.Fits.stored {row : Row} (fits : row.Fits) :
    row.fields.map Field.stored = row.fields := by
  refine (List.map_congr_left ?_).trans (List.map_id _)
  intro field member
  cases field with
  | int value => rfl
  | string text => exact congrArg Field.string (Utf8.clip_of_length_le (fits text member))

namespace Database

section

variable {database next : Database} {stride : Stride} {page : PageId} {content : Page}

end

end Database

namespace Service

/-- A chore writes a copy of the page that is not the one in the pool, though that one is there and
has no changes. -/
def Overlays (service : Service) (page : PageId) (action : ServiceAction) : Prop :=
  service.Overwrites page action ∧ service.database.pool.isCached page = true

instance (service : Service) (page : PageId) (action : ServiceAction) :
    Decidable (service.Overlays page action) :=
  inferInstanceAs (Decidable (_ ∧ _))

/-- A transaction has dropped its pages and is about to forget that it meant to write them. -/
def Forgets (service : Service) (transaction : TransactionId) : Prop :=
  ∃ ticket : Nat, service.chores[ticket]? = some (.forgetting transaction)

section

variable {service : Service} {action : ServiceAction} {current : Database} {stride : Stride}
  {page : PageId}

private theorem Makes.eq_of_writes (makes : service.Makes action current stride)
    (proper : service.Proper action) (writes : stride.WritesTo page) :
    current = service.database := by
  cases makes with
  | @plain _ plain _ move same makes _ =>
      cases move with
      | save saved => cases makes.writes.isChore.symm.trans (proper.plain plain same).2
      | _ => exact writes.elim
  | drop _ _ => exact writes.elim
  | fray _ _ _ => exact writes.elim
  | _ => rfl

theorem Regular.reflects (regular : service.Regular) (usual : service.Usual action)
    (recent : ¬service.Overlays page action) (reflects : service.database.Reflects page) :
    (service.serve action).database.Reflects page := by
  refine (regular.serve_keeps usual (fun current => current.Reflects page) ?_ reflects).2
  intro current next stride steady backed reflects makes ordinary strides
  refine strides.reflects ordinary steady backed ?_ reflects
  intro writes present
  obtain rfl := makes.eq_of_writes usual.proper writes
  refine makes.recent strides writes fun overwrites => recent ⟨overwrites, ?_⟩
  exact (steady.sound.isCached_eq).trans present

end

/-- A page is found by whoever writes it back, and its writer aborts before it is written. Once it was
read again, what the writer had stored is written over it: no transaction has the page to itself, and
it is not as on the disk. -/
theorem late_flush_brings_back_dropped_row :
    let start := Samples.table 2 1
    let page := Samples.rows.pageId 0
    let history : List ServiceAction :=
      [.serve (.perform (.begin 0 (.insert ⟨1⟩ ⟨0⟩ (Samples.row 7)))),
        .serve (.perform (.turn 0)), .call 0 (.flushPage page), .step 0, .call 1 (.abort ⟨1⟩),
        .step 1, .step 1, .step 1, .serve (.perform (.begin 1 (.fetch ⟨2⟩ page .read))),
        .serve (.perform (.turn 1))]
    let service := (new start).serveEach history
    let written := (service.step 0).1.database
    start.SetUp ∧ (new start).Along Ordinary (history ++ [.step 0]) ∧
      service.Overlays page (.step 0) ∧
      written.pool.unsaved? page = none ∧ written.pool.isCached page = true ∧
      written.pool.locks.exclusiveHolder? page = none ∧
      (written.pool.residentFrame? page).map (fun entry => entry.2.rows) = some [] ∧
      written.stored ⟨page, 0⟩ = some [.int 7] := by
  intro start page history service written
  have setUp : start.SetUp := Samples.setUp_table (by decide) 1
  have ordinary : (new start).Along Ordinary (history ++ [.step 0]) := by decide +kernel
  have overlays : service.Overlays page (.step 0) := by decide +kernel
  have saved : written.pool.unsaved? page = none := by decide +kernel
  have cached : written.pool.isCached page = true := by decide +kernel
  have shared : written.pool.locks.exclusiveHolder? page = none := by decide +kernel
  have without : (written.pool.residentFrame? page).map (fun entry => entry.2.rows) = some [] := by
    decide +kernel
  have stored : written.stored ⟨page, 0⟩ = some [.int 7] := by decide +kernel
  exact ⟨setUp, ordinary, overlays, saved, cached, shared, without, stored⟩

end Service

end RowStore
