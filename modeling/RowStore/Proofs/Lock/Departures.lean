import RowStore.Proofs.Lock.Interrupts
import RowStore.Proofs.Lock.Sparing
import RowStore.Proofs.WaitGraph.Run

/-!
Departures: a transaction that releases everything is gone from the lock table, whatever was done
before. What the others hold, and how they wait for one another, stays; and when those who were
woken are checked anew, in whatever order, nobody else is moved by it.
-/

set_option autoImplicit false

namespace RowStore.LockTable

/-! ### Releasing everything -/

structure Purged (table : LockTable) (transaction : TransactionId) : Prop where
  unknown : table.inWaitGraph transaction = false
  waits : ∀ wait ∈ table.graph.waits, wait.holder ≠ transaction ∧ wait.waiter ≠ transaction
  edges : ∀ edge : WaitEdge, edge.touches transaction = true → table.graph.edges[edge]? = none
  heldPages : table.heldPages transaction = []
  pending : table.pending transaction = false

/-- A request of the one transaction sleeps for a page that the other one holds. -/
def AwaitsPageOf (table : LockTable) (waiter holder : TransactionId) : Prop :=
  ∃ request, table.Blocked request ∧ request.transaction = waiter ∧
    table.lockMode? holder request.page ≠ none

/-- From one table to the next nothing has changed for the transaction: not its locks, not its
session, not its sleeping requests, and not whom it waits for. If it was known to the graph, it is
still, and in as many waits. -/
structure Unmoved (table next : LockTable) (transaction : TransactionId) : Prop where
  lockMode? : ∀ page, next.lockMode? transaction page = table.lockMode? transaction page
  session? : next.session? transaction = table.session? transaction
  sleepers : ∀ (ticket : Nat) (sleeper : Sleeper), sleeper.request.transaction = transaction →
    (next.sleepers[ticket]? = some sleeper ↔ table.sleepers[ticket]? = some sleeper)
  waits : ∀ wait : Wait, wait.waiter = transaction →
    (wait ∈ next.graph.waits ↔ wait ∈ table.graph.waits)
  edges : ∀ edge : WaitEdge, edge.waiter = transaction →
    next.graph.edges[edge]? = table.graph.edges[edge]?
  degree : table.inWaitGraph transaction = true →
    next.graph.degree? transaction = table.graph.degree? transaction

theorem Unmoved.refl (table : LockTable) (transaction : TransactionId) :
    table.Unmoved table transaction :=
  ⟨fun _ => rfl, rfl, fun _ _ _ => Iff.rfl, fun _ _ => Iff.rfl, fun _ _ => rfl, fun _ => rfl⟩

theorem inWaitGraph_eq (table : LockTable) (transaction : TransactionId) :
    table.inWaitGraph transaction = (table.graph.degree? transaction).isSome :=
  Std.ExtTreeMap.contains_eq_isSome_getElem?

theorem Unmoved.trans {first second third : LockTable} {transaction : TransactionId}
    (early : first.Unmoved second transaction) (late : second.Unmoved third transaction) :
    first.Unmoved third transaction := by
  constructor
  · intro page
    rw [late.lockMode?, early.lockMode?]
  · rw [late.session?, early.session?]
  · intro ticket sleeper own
    rw [late.sleepers ticket sleeper own, early.sleepers ticket sleeper own]
  · intro wait own
    rw [late.waits wait own, early.waits wait own]
  · intro edge own
    rw [late.edges edge own, early.edges edge own]
  · intro known
    have same := early.degree known
    rw [inWaitGraph_eq, ← same, ← inWaitGraph_eq] at known
    rw [late.degree known, same]

section

variable {table : LockTable} {transaction other : TransactionId}

theorem getElem?_sessions_release {id : SessionId} (different : id ≠ table.sessionId transaction)
    (page : PageId) :
    (table.release transaction page).sessions[id]? = table.sessions[id]? := by
  unfold release
  split
  · rfl
  · refine Std.ExtTreeMap.getElem?_modify.trans (if_neg ?_)
    rw [Std.LawfulEqCmp.compare_eq_iff_eq]
    exact Ne.symm different

theorem session?_foldl_release (different : other ≠ transaction) (pages : List PageId) :
    (pages.foldl (fun current page => current.release transaction page) table).session? other =
      table.session? other := by
  induction pages generalizing table with
  | nil => rfl
  | cons page rest ih =>
      have sameId : (table.release transaction page).sessionId other = table.sessionId other := by
        simp only [sessionId, ended_release]
      rw [List.foldl_cons, ih, session?, sameId, getElem?_sessions_release, session?]
      exact fun same => different (congrArg SessionId.owner same)

theorem session?_releaseAll (different : other ≠ transaction) :
    (table.releaseAll transaction).session? other = table.session? other := by
  have released : ((table.heldPages transaction).foldl
      (fun current page => current.release transaction page) table).session? other =
        table.session? other :=
    session?_foldl_release different _
  have sameId : ((table.heldPages transaction).foldl
      (fun current page => current.release transaction page) table).sessionId other =
        table.sessionId other := by
    simp only [sessionId, ended_foldl_release]
  rw [← released, session?, sessionId_releaseAll, if_neg different, session?, sameId]
  rfl

theorem sleepers_release_elsewhere {page : PageId} {ticket : Nat} {sleeper : Sleeper}
    (elsewhere : sleeper.request.page ≠ page) :
    (table.release transaction page).sleepers[ticket]? = some sleeper ↔
      table.sleepers[ticket]? = some sleeper := by
  by_cases untracked : table.pages[page]? = none
  · rw [release_untracked untracked]
  · rw [sleepers_release untracked, sleepers_wake]
    constructor
    · intro found
      obtain ⟨before, foundBefore, same⟩ := Option.map_eq_some_iff.mp found
      split at same
      · rename_i onPage
        rw [← same] at elsewhere
        exact absurd onPage elsewhere
      · rw [← same]
        exact foundBefore
    · intro found
      rw [found, Option.map_some, if_neg elsewhere]

theorem sleepers_foldl_release_elsewhere {pages : List PageId} {ticket : Nat} {sleeper : Sleeper}
    (elsewhere : sleeper.request.page ∉ pages) :
    (pages.foldl (fun current page => current.release transaction page) table).sleepers[ticket]? =
        some sleeper ↔ table.sleepers[ticket]? = some sleeper := by
  induction pages generalizing table with
  | nil => rfl
  | cons page rest ih =>
      rw [List.mem_cons, not_or] at elsewhere
      rw [List.foldl_cons, ih elsewhere.2, sleepers_release_elsewhere elsewhere.1]

theorem mem_waits_foldl_release {wait : Wait} (different : wait.holder ≠ transaction)
    (pages : List PageId) :
    wait ∈ (pages.foldl (fun current page => current.release transaction page) table).graph.waits ↔
      wait ∈ table.graph.waits := by
  induction pages generalizing table with
  | nil => rfl
  | cons page rest ih =>
      rw [List.foldl_cons, ih]
      by_cases untracked : table.pages[page]? = none
      · rw [release_untracked untracked]
      · rw [graph_release untracked, WaitGraph.mem_waits_release]
        exact and_iff_left (fun both => different both.1)

/-- Whichever way a wait goes, page by page or with the transaction, just the transaction's go. -/
theorem mem_waits_releaseAll {wait : Wait} :
    wait ∈ (table.releaseAll transaction).graph.waits ↔ wait ∈ table.graph.waits ∧
      wait.holder ≠ transaction ∧ wait.waiter ≠ transaction := by
  refine WaitGraph.mem_waits_remove.trans ?_
  constructor
  · rintro ⟨old, holder, waiter⟩
    exact ⟨(mem_waits_foldl_release holder _).mp old, holder, waiter⟩
  · rintro ⟨old, holder, waiter⟩
    exact ⟨(mem_waits_foldl_release holder _).mpr old, holder, waiter⟩

theorem inWaitGraph_releaseAll (table : LockTable) (transaction other : TransactionId) :
    (table.releaseAll transaction).inWaitGraph other =
      (other != transaction && table.inWaitGraph other) := by
  have released (pages : List PageId) :
      (pages.foldl (fun current page => current.release transaction page)
        table).graph.contains other = table.graph.contains other := by
    induction pages generalizing table with
    | nil => rfl
    | cons page rest ih =>
        rw [List.foldl_cons, ih]
        by_cases untracked : table.pages[page]? = none
        · rw [release_untracked untracked]
        · rw [graph_release untracked, WaitGraph.contains_release]
  exact (WaitGraph.contains_remove _ transaction other).trans
    (congrArg (other != transaction && ·) (released (table.heldPages transaction)))

theorem Grounded.purged (grounded : table.Grounded) (transaction : TransactionId) :
    (table.releaseAll transaction).Purged transaction := by
  have next := grounded.releaseAll transaction
  have fresh := grounded.current_releaseAll_self transaction
  have gone (wait : Wait) (present : wait ∈ (table.releaseAll transaction).graph.waits) :=
    (mem_waits_releaseAll.mp present).2
  refine ⟨?_, gone, ?_, ?_, ?_⟩
  · rw [inWaitGraph_releaseAll, bne_self_eq_false, Bool.false_and]
  · intro edge touched
    rw [Option.eq_none_iff_forall_ne_some]
    intro count found
    obtain ⟨positive, rfl⟩ := (next.consistent.tallies.edge_iff edge count).mp found
    obtain ⟨page, present⟩ := WaitGraph.multiplicity_pos_iff.mp positive
    obtain ⟨holder, waiter⟩ := gone _ (WaitGraph.mem_waitSet.mp present)
    rcases Bool.or_eq_true_iff.mp touched with same | same
    · exact holder (eq_of_beq same)
    · exact waiter (eq_of_beq same)
  · rw [heldPages_eq, fresh]
    rfl
  · rw [pending, fresh]
    rfl

theorem Grounded.getElem?_edges_releaseAll (grounded : table.Grounded) {edge : WaitEdge}
    (untouched : edge.touches transaction = false) :
    (table.releaseAll transaction).graph.edges[edge]? = table.graph.edges[edge]? := by
  obtain ⟨holder, waiter⟩ := Bool.or_eq_false_iff.mp untouched
  apply grounded.consistent.getElem?_edges_congr (grounded.releaseAll transaction).consistent
  rintro wait rfl
  rw [mem_waits_releaseAll]
  exact and_iff_left ⟨beq_eq_false_iff_ne.mp holder, beq_eq_false_iff_ne.mp waiter⟩

theorem Grounded.represents_releaseAll (grounded : table.Grounded) (transaction : TransactionId) :
    (table.releaseAll transaction).graph.Represents (table.graph.waitSet.filter
      (fun wait => wait.holder ≠ transaction ∧ wait.waiter ≠ transaction)) := by
  have left : (table.releaseAll transaction).graph.waitSet = table.graph.waitSet.filter
      (fun wait => wait.holder ≠ transaction ∧ wait.waiter ≠ transaction) := by
    ext wait
    simp only [WaitGraph.mem_waitSet, mem_waits_releaseAll, Finset.mem_filter]
  rw [← left]
  exact (grounded.releaseAll transaction).consistent.represents

theorem Grounded.unmoved_releaseAll (grounded : table.Grounded) (different : other ≠ transaction)
    (stranger : ¬table.AwaitsPageOf other transaction) :
    table.Unmoved (table.releaseAll transaction) other := by
  have next := grounded.releaseAll transaction
  have waits (wait : Wait) (own : wait.waiter = other) :
      wait ∈ (table.releaseAll transaction).graph.waits ↔ wait ∈ table.graph.waits := by
    rw [mem_waits_releaseAll]
    refine ⟨And.left, fun old => ⟨old, ?_, ?_⟩⟩
    · rintro rfl
      obtain ⟨holds, request, blocked, waiter, page⟩ := grounded.founded wait old
      exact stranger ⟨request, blocked, waiter.trans own, page ▸ holds⟩
    · rw [own]
      exact different
  refine ⟨?_, session?_releaseAll different, ?_, waits, ?_, ?_⟩
  · intro page
    rw [LockTable.lockMode?_releaseAll, if_neg (fun both => different both.1)]
  · intro ticket sleeper own
    -- Only the release of a page that the transaction is listed for wakes anybody.
    by_cases listed : sleeper.request.page ∈ table.heldPages transaction
    · have holds := grounded.held transaction _ (mem_heldPages.mp listed)
      constructor
      · intro found
        obtain ⟨before, foundBefore, same⟩ := sleeper_of_foldl_release found
        refine absurd ⟨before.request, ⟨ticket, before, foundBefore, rfl⟩, ?_, ?_⟩ stranger
        · rw [same, own]
        · rw [same]
          exact holds
      · intro found
        exact absurd ⟨sleeper.request, ⟨ticket, sleeper, found, rfl⟩, own, holds⟩ stranger
    · exact sleepers_foldl_release_elsewhere listed
  · rintro edge own
    apply grounded.consistent.getElem?_edges_congr next.consistent
    rintro wait rfl
    exact waits wait own
  · intro _
    apply grounded.consistent.degree?_congr next.consistent
    · refine (inWaitGraph_releaseAll table transaction other).trans ?_
      rw [bne_iff_ne.mpr different, Bool.true_and]
      rfl
    · exact waits

/-! ### Checking anew -/

def recheck (table : LockTable) (ticket : Nat) : LockTable :=
  match table.sleepers[ticket]? with
  | some sleeper => (table.acquire ticket sleeper.request).1
  | none => table

def recheckEach (table : LockTable) (tickets : List Nat) : LockTable :=
  tickets.foldl recheck table

theorem recheck_cases (table : LockTable) (ticket : Nat) :
    (table.sleepers[ticket]? = none ∧ table.recheck ticket = table) ∨
    ∃ sleeper : Sleeper, table.sleepers[ticket]? = some sleeper ∧
      (∀ again : Sleeper, table.sleepers[ticket]? = some again →
        again.request = sleeper.request) ∧
      table.recheck ticket = (table.acquire ticket sleeper.request).1 := by
  unfold recheck
  cases found : table.sleepers[ticket]? with
  | none => exact Or.inl ⟨rfl, rfl⟩
  | some sleeper =>
      refine Or.inr ⟨sleeper, rfl, ?_, rfl⟩
      intro again same
      cases same
      rfl

theorem Grounded.recheck (grounded : table.Grounded) (ticket : Nat) :
    (table.recheck ticket).Grounded := by
  rcases table.recheck_cases ticket with ⟨_, same⟩ | ⟨sleeper, _, _, same⟩
  · rw [same]
    exact grounded
  · rw [same]
    exact grounded.acquire ticket sleeper.request

theorem sleeper_of_recheck {ticket asleep : Nat} {sleeper : Sleeper}
    (found : (table.recheck ticket).sleepers[asleep]? = some sleeper) :
    ∃ before : Sleeper, table.sleepers[asleep]? = some before ∧
      before.request = sleeper.request := by
  rcases table.recheck_cases ticket with ⟨_, same⟩ | ⟨checked, foundChecked, again, same⟩
  · rw [same] at found
    exact ⟨sleeper, found, rfl⟩
  · rw [same] at found
    have answers := answers_acquire again
    by_cases own : asleep = ticket
    · subst own
      exact ⟨checked, foundChecked, (answers.asleep sleeper found).2.symm⟩
    · rw [answers.others asleep own] at found
      exact ⟨sleeper, found, rfl⟩

/-- Whoever does not make the request that is checked is not moved, but may become known to the
graph for standing in its way. -/
theorem Grounded.unmoved_recheck (grounded : table.Grounded) {ticket : Nat}
    (stranger : ∀ sleeper : Sleeper, table.sleepers[ticket]? = some sleeper →
      sleeper.request.transaction ≠ other) :
    table.Unmoved (table.recheck ticket) other ∧
      ((table.recheck ticket).inWaitGraph other = true → table.inWaitGraph other = true ∨
        ∃ sleeper : Sleeper, table.sleepers[ticket]? = some sleeper ∧
          table.Opposes other sleeper.request) := by
  rcases table.recheck_cases ticket with ⟨_, same⟩ | ⟨sleeper, found, again, same⟩
  · rw [same]
    exact ⟨Unmoved.refl table other, Or.inl⟩
  · have different := Ne.symm (stranger sleeper found)
    have spares := grounded.spares again
    have answers := answers_acquire again
    have next := grounded.acquire ticket sleeper.request
    rw [same]
    refine ⟨⟨?_, spares.session? different, ?_, ?_, ?_, ?_⟩, ?_⟩
    · intro page
      exact spares.lockMode? other page different
    · intro asleep another own
      by_cases here : asleep = ticket
      · subst here
        constructor
        · intro foundNext
          rw [(answers.asleep another foundNext).2] at own
          exact absurd own.symm different
        · intro foundBefore
          exact absurd own (stranger another foundBefore)
      · rw [answers.others asleep here]
    · rintro wait rfl
      exact spares.waits wait different
    · rintro edge rfl
      exact spares.getElem?_edges grounded.consistent next.consistent different
    · intro known
      apply grounded.consistent.degree?_congr next.consistent
      · rw [show table.graph.contains other = true from known]
        exact spares.known other known
      · rintro wait rfl
        exact spares.waits wait different
    · intro known
      rcases spares.met other known with before | own | opposes
      · exact Or.inl before
      · exact absurd own different
      · exact Or.inr ⟨sleeper, found, opposes⟩

theorem Unmoved.opposes {next : LockTable} (unmoved : table.Unmoved next other)
    {request : LockRequest} (opposes : next.Opposes other request) :
    table.Opposes other request := by
  unfold Opposes at opposes ⊢
  rw [unmoved.lockMode?] at opposes
  exact opposes

theorem Grounded.unmoved_recheckEach {tickets : List Nat} (grounded : table.Grounded)
    (strangers : ∀ ticket ∈ tickets, ∀ sleeper : Sleeper,
      table.sleepers[ticket]? = some sleeper → sleeper.request.transaction ≠ other) :
    table.Unmoved (table.recheckEach tickets) other ∧
      ((table.recheckEach tickets).inWaitGraph other = true → table.inWaitGraph other = true ∨
        ∃ ticket ∈ tickets, ∃ sleeper : Sleeper, table.sleepers[ticket]? = some sleeper ∧
          table.Opposes other sleeper.request) := by
  induction tickets generalizing table with
  | nil => exact ⟨Unmoved.refl table other, Or.inl⟩
  | cons ticket rest ih =>
      obtain ⟨first, metFirst⟩ :=
        grounded.unmoved_recheck (strangers ticket List.mem_cons_self)
      obtain ⟨later, metLater⟩ := ih (grounded.recheck ticket) (by
        intro asleep member sleeper found
        obtain ⟨before, foundBefore, same⟩ := sleeper_of_recheck found
        rw [← same]
        exact strangers asleep (List.mem_cons_of_mem ticket member) before foundBefore)
      refine ⟨first.trans later, ?_⟩
      intro known
      rcases metLater known with early | ⟨asleep, member, sleeper, found, opposes⟩
      · refine (metFirst early).imp_right ?_
        rintro ⟨sleeper, found, opposes⟩
        exact ⟨ticket, List.mem_cons_self, sleeper, found, opposes⟩
      · right
        obtain ⟨before, foundBefore, same⟩ := sleeper_of_recheck found
        refine ⟨asleep, List.mem_cons_of_mem ticket member, before, foundBefore, ?_⟩
        rw [same]
        exact first.opposes opposes

end

/-! ### What a departure comes to -/

/-- Whatever was done before: once a transaction has released everything, nothing is left of it. The
graph stands for the waits of all others behind all others, the edges between two others are what
they were, and so is what others hold. When requests that slept for pages of the transaction are
then checked anew, any of them in any order, nobody has moved by the end but those who slept for a
page of the transaction; at most has somebody become known to the graph who stands in the way of a
request that was checked. -/
theorem departures_move_waiters_only (actions : List LockAction) (transaction : TransactionId) :
    ((run actions).releaseAll transaction).Purged transaction ∧
    ((run actions).releaseAll transaction).graph.Represents ((run actions).graph.waitSet.filter
      (fun wait => wait.holder ≠ transaction ∧ wait.waiter ≠ transaction)) ∧
    (∀ edge : WaitEdge, edge.touches transaction = false →
      ((run actions).releaseAll transaction).graph.edges[edge]? =
        (run actions).graph.edges[edge]?) ∧
    (∀ other, other ≠ transaction →
      ((run actions).releaseAll transaction).heldPages other = (run actions).heldPages other ∧
      ∀ page, ((run actions).releaseAll transaction).lockMode? other page =
        (run actions).lockMode? other page) ∧
    ∀ tickets, (∀ ticket ∈ tickets, ∃ sleeper : Sleeper,
        (run actions).sleepers[ticket]? = some sleeper ∧
          (run actions).lockMode? transaction sleeper.request.page ≠ none) →
      ∀ other, other ≠ transaction → ¬(run actions).AwaitsPageOf other transaction →
        (run actions).Unmoved (((run actions).releaseAll transaction).recheckEach tickets) other ∧
        ((((run actions).releaseAll transaction).recheckEach tickets).inWaitGraph other = true →
          (run actions).inWaitGraph other = true ∨ ∃ ticket ∈ tickets, ∃ sleeper : Sleeper,
            (run actions).sleepers[ticket]? = some sleeper ∧
              (run actions).Opposes other sleeper.request) := by
  have grounded := grounded_run actions
  refine ⟨grounded.purged transaction, grounded.represents_releaseAll transaction,
    fun _ untouched => grounded.getElem?_edges_releaseAll untouched, ?_, ?_⟩
  · intro other different
    refine ⟨?_, ?_⟩
    · rw [heldPages, session?_releaseAll different, heldPages]
    · intro page
      rw [lockMode?_releaseAll, if_neg (fun both => different both.1)]
  · intro tickets asleep other different stranger
    have first := grounded.unmoved_releaseAll different stranger
    obtain ⟨later, met⟩ := (grounded.releaseAll transaction).unmoved_recheckEach (by
      intro ticket member sleeper found own
      obtain ⟨before, foundBefore, same⟩ := sleeper_of_foldl_release found
      obtain ⟨listed, foundListed, holds⟩ := asleep ticket member
      rw [foundBefore] at foundListed
      cases foundListed
      exact stranger ⟨before.request, ⟨ticket, before, foundBefore, rfl⟩,
        (congrArg LockRequest.transaction same).trans own, holds⟩)
    refine ⟨first.trans later, ?_⟩
    intro known
    rcases met known with early | ⟨ticket, member, sleeper, found, opposes⟩
    · left
      rw [inWaitGraph_releaseAll, Bool.and_eq_true] at early
      exact early.2
    · right
      obtain ⟨before, foundBefore, same⟩ := sleeper_of_foldl_release found
      refine ⟨ticket, member, before, foundBefore, ?_⟩
      rw [same]
      exact first.opposes opposes

/-- The second transaction sleeps for a page of the first, and the third holds another page, which
the second sleeps for no more than the fourth does. -/
theorem departures_move_waiters_only_handover :
    let first : PageId := ⟨⟨0⟩, 1⟩
    let second : PageId := ⟨⟨0⟩, 2⟩
    let actions : List LockAction :=
      [.acquire 0 ⟨⟨1⟩, first, .exclusive⟩, .acquire 1 ⟨⟨3⟩, second, .exclusive⟩,
        .acquire 2 ⟨⟨2⟩, first, .exclusive⟩, .acquire 3 ⟨⟨4⟩, second, .shared⟩]
    (run actions).sleeps ⟨1⟩ = false ∧
      (∃ sleeper : Sleeper, (run actions).sleepers[2]? = some sleeper ∧
        (run actions).lockMode? ⟨1⟩ sleeper.request.page ≠ none) ∧
      ¬(run actions).AwaitsPageOf ⟨4⟩ ⟨1⟩ ∧
      (((run actions).releaseAll ⟨1⟩).recheckEach [2]).lockMode? ⟨2⟩ first = some .exclusive ∧
        (run actions).Unmoved (((run actions).releaseAll ⟨1⟩).recheckEach [2]) ⟨4⟩ := by
  intro first second actions
  have awake : (run actions).sleeps ⟨1⟩ = false := by decide +kernel
  have found : (run actions).sleepers[2]? =
      some ⟨⟨⟨2⟩, first, .exclusive⟩, (run actions).sessionId ⟨2⟩, false⟩ := by decide +kernel
  have holds : (run actions).lockMode? ⟨1⟩ first ≠ none := by decide +kernel
  have apart : (run actions).lockMode? ⟨1⟩ second = none := by decide +kernel
  have elsewhere : ∀ entry ∈ (run actions).sleepers.toList,
      entry.2.request.transaction = ⟨4⟩ → entry.2.request.page = second := by decide +kernel
  have stranger : ¬(run actions).AwaitsPageOf ⟨4⟩ ⟨1⟩ := by
    rintro ⟨request, ⟨ticket, sleeper, foundOther, rfl⟩, own, holdsPage⟩
    have member := Std.ExtTreeMap.mem_toList_iff_getElem?_eq_some.mpr foundOther
    rw [elsewhere _ member own] at holdsPage
    exact holdsPage apart
  have asleep : ∀ ticket ∈ [2], ∃ sleeper : Sleeper,
      (run actions).sleepers[ticket]? = some sleeper ∧
        (run actions).lockMode? ⟨1⟩ sleeper.request.page ≠ none := by
    intro ticket member
    rw [List.mem_singleton.mp member]
    exact ⟨_, found, holds⟩
  have moved := (departures_move_waiters_only actions ⟨1⟩).2.2.2.2 [2] asleep ⟨4⟩ (by decide)
    stranger
  have granted : (((run actions).releaseAll ⟨1⟩).recheckEach [2]).lockMode? ⟨2⟩ first =
      some .exclusive := by decide +kernel
  exact ⟨awake, ⟨_, found, holds⟩, stranger, granted, moved.1⟩

/-- The third transaction came to share the page when the second slept for it already, and it waits
for nothing. It becomes known to the graph when the first departs and the second is checked anew. -/
theorem late_sharer_becomes_known :
    let page : PageId := ⟨⟨0⟩, 1⟩
    let actions : List LockAction :=
      [.acquire 0 ⟨⟨1⟩, page, .shared⟩, .acquire 1 ⟨⟨2⟩, page, .exclusive⟩,
        .acquire 2 ⟨⟨3⟩, page, .shared⟩]
    empty.OrderlyFrom actions ∧ (run actions).sleeps ⟨1⟩ = false ∧
      (run actions).sleeps ⟨3⟩ = false ∧ (run actions).isWaiting ⟨3⟩ = false ∧
      ((run actions).releaseAll ⟨1⟩).wokenTickets = [1] ∧
      (run actions).inWaitGraph ⟨3⟩ = false ∧
        (((run actions).releaseAll ⟨1⟩).recheckEach [1]).inWaitGraph ⟨3⟩ = true := by
  decide +kernel

end RowStore.LockTable
