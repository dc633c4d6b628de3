import RowStore.Proofs.Lock.Run

/-!
Exclusion: however requests, releases and interrupts follow one another, a page that one transaction
has to itself has no other holder, and nobody loses a lock but by releasing it.
-/

set_option autoImplicit false

namespace RowStore.LockTable

/-- Whoever has a page to itself is its only holder. -/
def IsExclusive (table : LockTable) : Prop :=
  ∀ page, (table.holders page).IsExclusive

theorem isExclusive_empty : empty.IsExclusive := by
  intro page
  left
  simp [empty, holders, Holders.nobody]

theorem IsExclusive.acquire {table : LockTable} (exclusive : table.IsExclusive) (ticket : Nat)
    (request : LockRequest) : (table.acquire ticket request).1.IsExclusive := by
  intro page
  rcases table.holders_acquire ticket request with unchanged | ⟨asked, unopposed, granted⟩
  · rw [unchanged]
    exact exclusive page
  · rw [granted]
    by_cases same : asked.page = page
    · rw [if_pos same]
      rw [same] at unopposed
      exact (exclusive page).grant unopposed
    · rw [if_neg same]
      exact exclusive page

theorem IsExclusive.release {table : LockTable} (exclusive : table.IsExclusive)
    (transaction : TransactionId) (page : PageId) :
    (table.release transaction page).IsExclusive := by
  intro other
  rw [holders_release]
  by_cases same : other = page
  · rw [if_pos same]
    exact (exclusive page).release transaction
  · rw [if_neg same]
    exact exclusive other

theorem IsExclusive.releaseAll {table : LockTable} (exclusive : table.IsExclusive)
    (transaction : TransactionId) : (table.releaseAll transaction).IsExclusive := by
  have released (pages : List PageId) {start : LockTable} (before : start.IsExclusive) :
      (pages.foldl (fun current page => current.release transaction page) start).IsExclusive := by
    induction pages generalizing start with
    | nil => exact before
    | cons page rest ih => exact ih (before.release transaction page)
  exact released (table.heldPages transaction) exclusive

theorem IsExclusive.interrupt {table : LockTable} (exclusive : table.IsExclusive)
    (transaction : TransactionId) : (table.interrupt transaction).IsExclusive := by
  intro page
  rw [holders_interrupt]
  exact exclusive page

theorem IsExclusive.perform {table : LockTable} (exclusive : table.IsExclusive)
    (action : LockAction) : (table.perform action).IsExclusive := by
  cases action with
  | acquire ticket request => exact exclusive.acquire ticket request
  | release transaction page => exact exclusive.release transaction page
  | releaseAll transaction => exact exclusive.releaseAll transaction
  | interrupt transaction => exact exclusive.interrupt transaction

theorem isExclusive_run (actions : List LockAction) : (run actions).IsExclusive := by
  unfold run
  have kept (table : LockTable) (exclusive : table.IsExclusive) :
      (actions.foldl LockTable.perform table).IsExclusive := by
    induction actions generalizing table with
    | nil => exact exclusive
    | cons action rest ih => exact ih (table.perform action) (exclusive.perform action)
  exact kept empty isExclusive_empty

theorem lockMode?_acquire_covers {table : LockTable} (ticket : Nat) (request : LockRequest)
    {holder : TransactionId} {page : PageId} {held : LockMode}
    (holds : table.lockMode? holder page = some held) :
    ∃ kept, (table.acquire ticket request).1.lockMode? holder page = some kept ∧
      kept.Covers held := by
  unfold lockMode? at holds ⊢
  rcases table.holders_acquire ticket request with unchanged | ⟨asked, unopposed, granted⟩
  · rw [unchanged]
    exact ⟨held, holds, LockMode.Covers.refl held⟩
  · rw [granted]
    by_cases same : asked.page = page
    · rw [if_pos same]
      rw [same] at unopposed
      exact Holders.modeOf?_grant_covers unopposed holds
    · rw [if_neg same]
      exact ⟨held, holds, LockMode.Covers.refl held⟩

theorem lockMode?_perform_covers {table : LockTable} {action : LockAction}
    {holder : TransactionId} {page : PageId} {held : LockMode}
    (holds : table.lockMode? holder page = some held)
    (notReleased : action ≠ .release holder page) (notEnded : action ≠ .releaseAll holder) :
    ∃ kept, (table.perform action).lockMode? holder page = some kept ∧ kept.Covers held := by
  cases action with
  | acquire ticket request => exact lockMode?_acquire_covers ticket request holds
  | release transaction released =>
      refine ⟨held, ?_, LockMode.Covers.refl held⟩
      rw [perform, lockMode?_release, if_neg]
      · exact holds
      · intro both
        exact notReleased (by rw [both.1, both.2])
  | releaseAll transaction =>
      refine ⟨held, ?_, LockMode.Covers.refl held⟩
      rw [perform, lockMode?_releaseAll, if_neg]
      · exact holds
      · intro both
        exact notEnded (by rw [both.1])
  | interrupt transaction =>
      refine ⟨held, ?_, LockMode.Covers.refl held⟩
      rw [perform, lockMode?, holders_interrupt]
      exact holds

/-- After every run each page has no exclusive holder, or has one and nobody shares it; and a
further action takes or weakens a transaction's lock on a page only if it is that transaction's
release of the page or of everything. -/
theorem mutual_exclusion (actions : List LockAction) :
    (∀ page, ((run actions).holders page).exclusive = none ∨
      ∃ holder, ((run actions).holders page).exclusive = some holder ∧
        ((run actions).holders page).shared = ∅) ∧
    ∀ action holder page held, (run actions).lockMode? holder page = some held →
      action ≠ .release holder page → action ≠ .releaseAll holder →
        ∃ kept, ((run actions).perform action).lockMode? holder page = some kept ∧
          kept.Covers held := by
  refine ⟨isExclusive_run actions, ?_⟩
  intro action holder page held holds notReleased notEnded
  exact lockMode?_perform_covers holds notReleased notEnded

/-- Two transactions share a page, and one of them asks for it exclusively; the other keeps its
share. -/
theorem mutual_exclusion_upgrade :
    let page : PageId := ⟨⟨0⟩, 1⟩
    let actions : List LockAction :=
      [.acquire 0 ⟨⟨1⟩, page, .shared⟩, .acquire 1 ⟨⟨2⟩, page, .shared⟩]
    let upgrade : LockAction := .acquire 2 ⟨⟨1⟩, page, .exclusive⟩
    (run actions).lockMode? ⟨2⟩ page = some .shared ∧ upgrade ≠ .release ⟨2⟩ page ∧
      upgrade ≠ .releaseAll ⟨2⟩ ∧
        ∃ kept, ((run actions).perform upgrade).lockMode? ⟨2⟩ page = some kept ∧
          kept.Covers .shared := by
  intro page actions upgrade
  have holds : (run actions).lockMode? ⟨2⟩ page = some .shared := by decide +kernel
  have notReleased : upgrade ≠ .release ⟨2⟩ page := by decide
  have notEnded : upgrade ≠ .releaseAll ⟨2⟩ := by decide
  exact ⟨holds, notReleased, notEnded,
    (mutual_exclusion actions).2 upgrade ⟨2⟩ page .shared holds notReleased notEnded⟩

end RowStore.LockTable
