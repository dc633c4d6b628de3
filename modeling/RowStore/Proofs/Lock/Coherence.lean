import RowStore.Proofs.Lock.Ownership
import RowStore.Proofs.WaitGraph.Upkeep

/-!
Coherence: the wait graph and the sleepers of a lock table agree. Every recorded wait is made by a
request that sleeps, behind a holder that stands in its way, and nobody in the graph waits in a
circle.
-/

set_option autoImplicit false

namespace RowStore.LockTable

/-- A sleeping request makes the wait, and the wait is behind someone in the way of that request. -/
def Genuine (table : LockTable) (wait : Wait) : Prop :=
  ∃ (ticket : Nat) (sleeper : Sleeper), table.sleepers[ticket]? = some sleeper ∧
    sleeper.request.transaction = wait.waiter ∧ sleeper.request.page = wait.page ∧
      table.Opposes wait.holder sleeper.request

structure Coherent (table : LockTable) : Prop where
  consistent : table.graph.Consistent
  single : ∀ (first second : Nat) (left right : Sleeper), table.sleepers[first]? = some left →
    table.sleepers[second]? = some right →
      left.request.transaction = right.request.transaction → first = second
  genuine : ∀ wait ∈ table.graph.waits, table.Genuine wait

theorem coherent_empty : empty.Coherent := by
  constructor
  · exact WaitGraph.consistent_empty
  · intro first second left right found
    simp [empty] at found
  · intro wait present
    simp [empty, WaitGraph.empty] at present

/-- The request sleeps on unwoken from one table to the next, and keeps its waits. -/
def SleepsOn (table next : LockTable) (ticket : Nat) (sleeper : Sleeper) : Prop :=
  table.sleepers[ticket]? = some sleeper ∧
    ∀ wait ∈ table.graph.waits, wait.waiter = sleeper.request.transaction →
      wait.page = sleeper.request.page → wait ∈ next.graph.waits

/-- Somebody stands in the way of the request, and it waits behind all of them. -/
def WaitsForAll (table : LockTable) (request : LockRequest) : Prop :=
  (∃ holder, table.Opposes holder request) ∧
    ∀ holder, table.Opposes holder request →
      ⟨holder, request.page, request.transaction⟩ ∈ table.graph.waits

def LeavesAsleep (table next : LockTable) : Prop :=
  ∀ (ticket : Nat) (sleeper : Sleeper), next.sleepers[ticket]? = some sleeper →
    sleeper.woken = false → table.SleepsOn next ticket sleeper

def Leads (table next : LockTable) : Prop :=
  ∀ (ticket : Nat) (sleeper : Sleeper), next.sleepers[ticket]? = some sleeper →
    sleeper.woken = false →
      table.SleepsOn next ticket sleeper ∨ next.WaitsForAll sleeper.request

theorem LeavesAsleep.refl (table : LockTable) : table.LeavesAsleep table :=
  fun _ _ found _ => ⟨found, fun _ present _ _ => present⟩

theorem LeavesAsleep.trans {first second third : LockTable} (early : first.LeavesAsleep second)
    (late : second.LeavesAsleep third) : first.LeavesAsleep third := by
  intro ticket sleeper found asleep
  obtain ⟨middle, keepsLate⟩ := late ticket sleeper found asleep
  obtain ⟨before, keepsEarly⟩ := early ticket sleeper middle asleep
  refine ⟨before, ?_⟩
  intro wait old waiter page
  exact keepsLate wait (keepsEarly wait old waiter page) waiter page

theorem LeavesAsleep.leads {table next : LockTable} (leaves : table.LeavesAsleep next) :
    table.Leads next :=
  fun ticket sleeper found asleep => Or.inl (leaves ticket sleeper found asleep)

theorem Opposes.of_covers {table next : LockTable} {holder : TransactionId} {request : LockRequest}
    (opposes : table.Opposes holder request)
    (kept : ∀ held, table.lockMode? holder request.page = some held →
      ∃ stronger, next.lockMode? holder request.page = some stronger ∧ stronger.Covers held) :
    next.Opposes holder request := by
  obtain ⟨different, held, holds, conflict⟩ := opposes
  obtain ⟨stronger, keeps, covers⟩ := kept held holds
  exact ⟨different, stronger, keeps, covers.conflicts conflict⟩

/-! ### Checks -/

/-- A table in which the request is about to be checked: its transaction has no other request
asleep, and the waits that it has are of its last check. -/
private structure Pending (table : LockTable) (ticket : Nat) (request : LockRequest) : Prop where
  consistent : table.graph.Consistent
  single : ∀ (first second : Nat) (left right : Sleeper), table.sleepers[first]? = some left →
    table.sleepers[second]? = some right →
      left.request.transaction = right.request.transaction → first = second
  unused : table.sleepers[ticket]? = none
  awake : ∀ (other : Nat) (sleeper : Sleeper), table.sleepers[other]? = some sleeper →
    sleeper.request.transaction ≠ request.transaction
  genuine : ∀ wait ∈ table.graph.waits, table.Genuine wait ∨
    (request.transaction = wait.waiter ∧ request.page = wait.page ∧
      table.Opposes wait.holder request)

private theorem Coherent.pending {table prepared : LockTable} {ticket : Nat} {session : SessionId}
    {request : LockRequest} (coherent : table.Coherent)
    (prepares : table.Prepares prepared ticket session)
    (mine : ∀ sleeper : Sleeper, table.sleepers[ticket]? = some sleeper → sleeper.request = request)
    (alone : ∀ (other : Nat) (sleeper : Sleeper), table.sleepers[other]? = some sleeper →
      other ≠ ticket → sleeper.request.transaction ≠ request.transaction) :
    prepared.Pending ticket request := by
  have before {other : Nat} {sleeper : Sleeper}
      (found : prepared.sleepers[other]? = some sleeper) :
      other ≠ ticket ∧ table.sleepers[other]? = some sleeper := by
    rw [prepares.sleepers] at found
    split at found
    · cases found
    · rename_i different
      exact ⟨different, found⟩
  have opposes_iff (holder : TransactionId) (asked : LockRequest) :
      prepared.Opposes holder asked ↔ table.Opposes holder asked := by
    unfold Opposes lockMode?
    rw [prepares.holders]
  constructor
  · rw [prepares.graph]
    exact coherent.consistent
  · intro first second left right foundFirst foundSecond
    exact coherent.single first second left right (before foundFirst).2 (before foundSecond).2
  · rw [prepares.sleepers, if_pos rfl]
  · intro other sleeper found
    exact alone other sleeper (before found).2 (before found).1
  · intro wait present
    rw [prepares.graph] at present
    obtain ⟨other, sleeper, found, waiter, page, opposes⟩ := coherent.genuine wait present
    by_cases same : other = ticket
    · right
      subst same
      rw [← mine sleeper found, opposes_iff]
      exact ⟨waiter, page, opposes⟩
    · left
      refine ⟨other, sleeper, ?_, waiter, page, (opposes_iff _ _).mpr opposes⟩
      rw [prepares.sleepers, if_neg same]
      exact found

private theorem Pending.settled {table next : LockTable} {ticket : Nat} {request : LockRequest}
    (pending : table.Pending ticket request) (consistent : next.graph.Consistent)
    (waits : ∀ wait, wait ∈ next.graph.waits ↔ wait ∈ table.graph.waits ∧
      ¬(wait.waiter = request.transaction ∧ wait.page = request.page))
    (sleepers : next.sleepers = table.sleepers)
    (covers : ∀ holder page held, table.lockMode? holder page = some held →
      ∃ stronger, next.lockMode? holder page = some stronger ∧ stronger.Covers held) :
    next.Coherent ∧ table.Leads next := by
  refine ⟨⟨consistent, ?_, ?_⟩, ?_⟩
  · rw [sleepers]
    exact pending.single
  · intro wait present
    obtain ⟨old, different⟩ := (waits wait).mp present
    rcases pending.genuine wait old with ⟨other, sleeper, found, waiter, page, opposes⟩ |
      ⟨waiter, page, _⟩
    · refine ⟨other, sleeper, ?_, waiter, page, ?_⟩
      · rw [sleepers]
        exact found
      · exact opposes.of_covers (covers _ _)
    · exact absurd ⟨waiter.symm, page.symm⟩ different
  · apply LeavesAsleep.leads
    intro other sleeper found _
    rw [sleepers] at found
    refine ⟨found, ?_⟩
    intro wait old waiter _
    refine (waits wait).mpr ⟨old, ?_⟩
    intro mine
    exact pending.awake other sleeper found (waiter.symm.trans mine.1)

private theorem Pending.asleep {table next : LockTable} {ticket : Nat} {request : LockRequest}
    {session : SessionId} (pending : table.Pending ticket request)
    (opposed : (table.holders request.page).opposing request.transaction request.mode ≠ [])
    (consistent : next.graph.Consistent)
    (waits : ∀ wait, wait ∈ next.graph.waits ↔ wait ∈ table.graph.waits ∨
      (wait.waiter = request.transaction ∧ wait.page = request.page ∧
        wait.holder ∈ (table.holders request.page).opposing request.transaction request.mode ∧
          wait.holder ≠ request.transaction))
    (sleepers : next.sleepers = table.sleepers.insert ticket ⟨request, session, false⟩)
    (pages : next.pages = table.pages) :
    next.Coherent ∧ table.Leads next := by
  have opposes_iff (holder : TransactionId) (asked : LockRequest) :
      next.Opposes holder asked ↔ table.Opposes holder asked := by
    unfold Opposes lockMode? holders
    rw [pages]
  have cases_of_found {other : Nat} {sleeper : Sleeper}
      (found : next.sleepers[other]? = some sleeper) :
      (other = ticket ∧ sleeper = ⟨request, session, false⟩) ∨
        (other ≠ ticket ∧ table.sleepers[other]? = some sleeper) := by
    simp only [sleepers, Std.ExtTreeMap.getElem?_insert, Std.LawfulEqCmp.compare_eq_iff_eq] at found
    split at found
    · rename_i same
      cases found
      exact Or.inl ⟨same.symm, rfl⟩
    · rename_i different
      exact Or.inr ⟨Ne.symm different, found⟩
  have entered : next.sleepers[ticket]? = some ⟨request, session, false⟩ := by
    rw [sleepers, Std.ExtTreeMap.getElem?_insert_self]
  refine ⟨⟨consistent, ?_, ?_⟩, ?_⟩
  · intro first second left right foundFirst foundSecond same
    rcases cases_of_found foundFirst with ⟨rfl, rfl⟩ | ⟨_, before⟩
    · rcases cases_of_found foundSecond with ⟨rfl, rfl⟩ | ⟨_, other⟩
      · rfl
      · exact absurd same.symm (pending.awake second right other)
    · rcases cases_of_found foundSecond with ⟨rfl, rfl⟩ | ⟨_, other⟩
      · exact absurd same (pending.awake first left before)
      · exact pending.single first second left right before other same
  · intro wait present
    rcases (waits wait).mp present with old | ⟨waiter, page, member, _⟩
    · rcases pending.genuine wait old with ⟨other, sleeper, found, waiter, page, opposes⟩ |
        ⟨waiter, page, opposes⟩
      · refine ⟨other, sleeper, ?_, waiter, page, (opposes_iff _ _).mpr opposes⟩
        have different : ticket ≠ other := by
          rintro rfl
          rw [pending.unused] at found
          cases found
        simp only [sleepers, Std.ExtTreeMap.getElem?_insert, Std.LawfulEqCmp.compare_eq_iff_eq,
          if_neg different]
        exact found
      · exact ⟨ticket, _, entered, waiter, page, (opposes_iff _ _).mpr opposes⟩
    · refine ⟨ticket, _, entered, waiter.symm, page.symm, ?_⟩
      rw [opposes_iff, opposes_iff_mem_opposing]
      exact member
  · intro other sleeper found _
    rcases cases_of_found found with ⟨rfl, rfl⟩ | ⟨_, before⟩
    · right
      constructor
      · obtain ⟨holder, member⟩ := List.exists_mem_of_ne_nil _ opposed
        exact ⟨holder, (opposes_iff _ _).mpr (opposes_iff_mem_opposing.mpr member)⟩
      · intro holder opposes
        rw [opposes_iff] at opposes
        exact (waits _).mpr
          (Or.inr ⟨rfl, rfl, opposes_iff_mem_opposing.mp opposes, opposes.1⟩)
    · left
      exact ⟨before, fun wait old _ _ => (waits wait).mpr (Or.inl old)⟩

private theorem Pending.check {table : LockTable} {ticket : Nat} {request : LockRequest}
    (pending : table.Pending ticket request) (session : SessionId) :
    (table.check ticket request session).1.Coherent ∧
      table.Leads (table.check ticket request session).1 := by
  have unmoved (holder : TransactionId) (page : PageId) (held : LockMode)
      (holds : table.lockMode? holder page = some held) :
      ∃ stronger, table.lockMode? holder page = some stronger ∧ stronger.Covers held :=
    ⟨held, holds, LockMode.Covers.refl held⟩
  rcases table.check_cases ticket request session with
    ⟨unopposed, granted⟩ | ⟨opposed, graph, accepted, asked, verdicts⟩
  · rw [granted]
    dsimp only
    refine pending.settled (pending.consistent.resolve _ _)
      (fun wait => WaitGraph.mem_waits_resolve) rfl ?_
    intro holder page held holds
    unfold lockMode? at holds ⊢
    rw [holders_grant]
    split
    · rename_i same
      rw [same] at unopposed
      exact Holders.modeOf?_grant_covers unopposed holds
    · exact unmoved holder page held holds
  · rcases verdicts with ⟨rfl, result⟩ | ⟨rfl, _, result⟩ | ⟨rfl, _, result⟩
    · obtain ⟨consistent, same⟩ := pending.consistent.addWaits_false asked
      rw [result]
      dsimp only
      refine pending.settled (consistent.resolve _ _) ?_ rfl unmoved
      intro wait
      rw [WaitGraph.mem_waits_resolve, same]
    · obtain ⟨consistent, waits⟩ := pending.consistent.addWaits_true asked
      rw [result]
      dsimp only
      refine pending.settled (consistent.resolve _ _) ?_ rfl unmoved
      intro wait
      rw [WaitGraph.mem_waits_resolve, waits]
      constructor
      · rintro ⟨old | ⟨waiter, page, _⟩, different⟩
        · exact ⟨old, different⟩
        · exact absurd ⟨waiter, page⟩ different
      · rintro ⟨old, different⟩
        exact ⟨Or.inl old, different⟩
    · obtain ⟨consistent, waits⟩ := pending.consistent.addWaits_true asked
      rw [result]
      exact pending.asleep opposed consistent waits rfl rfl

theorem Coherent.acquire {table : LockTable} (coherent : table.Coherent) {ticket : Nat}
    {request : LockRequest} (orderly : table.Orderly (.acquire ticket request)) :
    (table.acquire ticket request).1.Coherent ∧
      table.Leads (table.acquire ticket request).1 := by
  have checked {prepared : LockTable} {session : SessionId} {asked : LockRequest}
      (prepares : table.Prepares prepared ticket session)
      (pending : prepared.Pending ticket asked) :
      (prepared.check ticket asked session).1.Coherent ∧
        table.Leads (prepared.check ticket asked session).1 := by
    obtain ⟨next, leads⟩ := pending.check session
    refine ⟨next, ?_⟩
    intro other sleeper found asleep
    rcases leads other sleeper found asleep with ⟨before, keeps⟩ | fresh
    · left
      rw [prepares.sleepers] at before
      rw [prepares.graph] at keeps
      split at before
      · cases before
      · exact ⟨before, keeps⟩
    · exact Or.inr fresh
  rcases table.acquire_cases ticket request with ⟨unused, same⟩ | ⟨sleeper, found, _, same⟩ |
    ⟨_, _, _, same⟩
  · rw [same]
    have prepares := prepares_enroll unused request
    apply checked prepares
    apply coherent.pending prepares
    · intro sleeper found
      rw [unused] at found
      cases found
    · intro other sleeper found _
      exact sleeps_eq_false.mp (orderly unused) other sleeper found
  · rw [same]
    have prepares := table.prepares_rouse ticket sleeper
    apply checked prepares
    apply coherent.pending prepares
    · intro again foundAgain
      rw [found] at foundAgain
      cases foundAgain
      rfl
    · intro other another foundOther different sameTransaction
      exact different
        (coherent.single other ticket another sleeper foundOther found sameTransaction)
  · rw [same]
    exact ⟨coherent, (LeavesAsleep.refl table).leads⟩

/-! ### Releases and interrupts -/

/-- The sleepers stay, woken or not, and the waits that stay are behind holders that keep their
locks. -/
private theorem Coherent.of_sleepers {table next : LockTable} (coherent : table.Coherent)
    (consistent : next.graph.Consistent)
    (before : ∀ (ticket : Nat) (sleeper : Sleeper), next.sleepers[ticket]? = some sleeper →
      ∃ earlier : Sleeper, table.sleepers[ticket]? = some earlier ∧
        earlier.request = sleeper.request)
    (after : ∀ (ticket : Nat) (sleeper : Sleeper), table.sleepers[ticket]? = some sleeper →
      ∃ later : Sleeper, next.sleepers[ticket]? = some later ∧ later.request = sleeper.request)
    (waits : ∀ wait ∈ next.graph.waits, wait ∈ table.graph.waits ∧
      next.lockMode? wait.holder wait.page = table.lockMode? wait.holder wait.page) :
    next.Coherent := by
  refine ⟨consistent, ?_, ?_⟩
  · intro first second left right foundFirst foundSecond same
    obtain ⟨earlierLeft, foundLeft, leftRequest⟩ := before first left foundFirst
    obtain ⟨earlierRight, foundRight, rightRequest⟩ := before second right foundSecond
    rw [← leftRequest, ← rightRequest] at same
    exact coherent.single first second earlierLeft earlierRight foundLeft foundRight same
  · intro wait present
    obtain ⟨old, keeps⟩ := waits wait present
    obtain ⟨ticket, sleeper, found, waiter, page, opposes⟩ := coherent.genuine wait old
    obtain ⟨later, foundLater, request⟩ := after ticket sleeper found
    refine ⟨ticket, later, foundLater, ?_⟩
    rw [request]
    refine ⟨waiter, page, opposes.of_covers ?_⟩
    intro held holds
    rw [page] at holds ⊢
    exact ⟨held, keeps.trans holds, LockMode.Covers.refl held⟩

private theorem Coherent.wake {table : LockTable} (coherent : table.Coherent) (page : PageId) :
    (table.wake page).Coherent ∧ table.LeavesAsleep (table.wake page) := by
  constructor
  · refine coherent.of_sleepers coherent.consistent ?_ ?_ ?_
    · intro ticket sleeper found
      obtain ⟨before, foundBefore, request, _⟩ := sleeper_of_wake found
      exact ⟨before, foundBefore, request⟩
    · intro ticket sleeper found
      exact exists_sleeper_wake page found
    · intro wait present
      exact ⟨present, rfl⟩
  · intro ticket sleeper found asleep
    obtain ⟨before, foundBefore, _, _, unwoken⟩ := sleeper_of_wake found
    rw [(unwoken asleep).1] at foundBefore
    exact ⟨foundBefore, fun _ present _ _ => present⟩

theorem Coherent.release {table : LockTable} (coherent : table.Coherent)
    (transaction : TransactionId) (page : PageId) :
    (table.release transaction page).Coherent ∧
      table.LeavesAsleep (table.release transaction page) := by
  by_cases untracked : table.pages[page]? = none
  · rw [release_untracked untracked]
    exact ⟨coherent, LeavesAsleep.refl table⟩
  · have sleepers (ticket : Nat) := sleepers_release untracked transaction ticket
    have graph := graph_release untracked transaction
    constructor
    · refine coherent.of_sleepers ?_ ?_ ?_ ?_
      · rw [graph]
        exact coherent.consistent.release transaction page
      · intro ticket sleeper found
        rw [sleepers] at found
        obtain ⟨before, foundBefore, request, _⟩ := sleeper_of_wake found
        exact ⟨before, foundBefore, request⟩
      · intro ticket sleeper found
        rw [sleepers]
        exact exists_sleeper_wake page found
      · intro wait present
        rw [graph] at present
        obtain ⟨old, notReleased⟩ := WaitGraph.mem_waits_release.mp present
        refine ⟨old, ?_⟩
        rw [lockMode?_release, if_neg notReleased]
    · intro ticket sleeper found asleep
      rw [sleepers] at found
      obtain ⟨before, foundBefore, _, _, unwoken⟩ := sleeper_of_wake found
      obtain ⟨rfl, elsewhere⟩ := unwoken asleep
      refine ⟨foundBefore, ?_⟩
      intro wait old _ onPage
      rw [graph]
      refine WaitGraph.mem_waits_release.mpr ⟨old, ?_⟩
      intro released
      exact elsewhere (onPage.symm.trans released.2)

private theorem Coherent.foldl_release {table : LockTable} (coherent : table.Coherent)
    (transaction : TransactionId) (pages : List PageId) :
    (pages.foldl (fun current page => current.release transaction page) table).Coherent ∧
      table.LeavesAsleep
        (pages.foldl (fun current page => current.release transaction page) table) := by
  induction pages generalizing table with
  | nil => exact ⟨coherent, LeavesAsleep.refl table⟩
  | cons page rest ih =>
      obtain ⟨first, early⟩ := coherent.release transaction page
      obtain ⟨later, late⟩ := ih first
      exact ⟨later, early.trans late⟩

/-- The waits that are left when a transaction has released everything are as genuine as before,
even if a request of it still sleeps. -/
theorem Coherent.forget {table : LockTable} (coherent : table.Coherent)
    (transaction : TransactionId) : (table.releaseAll transaction).Coherent := by
  obtain ⟨released, _⟩ := coherent.foldl_release transaction (table.heldPages transaction)
  refine ⟨released.consistent.remove transaction, released.single, ?_⟩
  intro wait present
  exact released.genuine wait (WaitGraph.mem_waits_remove.mp present).1

/-- A transaction that ends has let go of everything and waits for nothing, so that forgetting it
takes no wait from the graph. -/
theorem Coherent.releaseAll {table : LockTable} (coherent : table.Coherent)
    (accounted : table.Accounted) {transaction : TransactionId}
    (awake : table.sleeps transaction = false) :
    (table.releaseAll transaction).Coherent ∧
      table.LeavesAsleep (table.releaseAll transaction) := by
  have nothing := accounted.lockMode?_releaseAll_self transaction
  obtain ⟨released, leaves⟩ := coherent.foldl_release transaction (table.heldPages transaction)
  have waits (wait : Wait) : wait ∈ (table.releaseAll transaction).graph.waits ↔
      wait ∈ ((table.heldPages transaction).foldl
        (fun current page => current.release transaction page) table).graph.waits := by
    refine WaitGraph.mem_waits_remove.trans ⟨fun both => both.1, ?_⟩
    intro old
    obtain ⟨ticket, sleeper, found, waiter, page, _, held, holds, _⟩ := released.genuine wait old
    refine ⟨old, ?_, ?_⟩
    · intro same
      change (table.releaseAll transaction).lockMode? wait.holder sleeper.request.page =
        some held at holds
      rw [same, nothing] at holds
      cases holds
    · obtain ⟨before, foundBefore, request⟩ := sleeper_of_foldl_release found
      rw [← waiter, ← request]
      exact sleeps_eq_false.mp awake ticket before foundBefore
  refine ⟨coherent.forget transaction, ?_⟩
  intro ticket sleeper found asleep
  obtain ⟨before, keeps⟩ := leaves ticket sleeper found asleep
  refine ⟨before, ?_⟩
  intro wait old waiter page
  exact (waits wait).mpr (keeps wait old waiter page)

theorem Coherent.interrupt {table : LockTable} (coherent : table.Coherent)
    (transaction : TransactionId) :
    (table.interrupt transaction).Coherent ∧
      table.LeavesAsleep (table.interrupt transaction) := by
  have marked : (table.setSession (table.sessionId transaction)
      (table.session (table.sessionId transaction)).interrupt).Coherent :=
    ⟨coherent.consistent, coherent.single, coherent.genuine⟩
  unfold LockTable.interrupt
  dsimp only
  split
  · exact marked.wake _
  · exact ⟨marked, LeavesAsleep.refl table⟩

theorem Coherent.perform {table : LockTable} (coherent : table.Coherent)
    (accounted : table.Accounted) {action : LockAction} (orderly : table.Orderly action) :
    (table.perform action).Coherent ∧ table.Leads (table.perform action) := by
  cases action with
  | acquire ticket request => exact coherent.acquire orderly
  | release transaction page =>
      obtain ⟨next, leaves⟩ := coherent.release transaction page
      exact ⟨next, leaves.leads⟩
  | releaseAll transaction =>
      obtain ⟨next, leaves⟩ := coherent.releaseAll accounted orderly
      exact ⟨next, leaves.leads⟩
  | interrupt transaction =>
      obtain ⟨next, leaves⟩ := coherent.interrupt transaction
      exact ⟨next, leaves.leads⟩

end RowStore.LockTable
