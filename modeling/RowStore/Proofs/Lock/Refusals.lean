import RowStore.Proofs.Lock.Deadlock

/-!
Refusals: no request is refused for a deadlock that is not there. Every edge that the graph goes by
leads from a request that sleeps to a holder in its way, and stays so while a transaction releases
everything with a request of it still asleep.
-/

set_option autoImplicit false

namespace RowStore.LockTable

/-! ### One request each -/

/-- A transaction makes no request while one of its own sleeps. -/
def Sequential (table : LockTable) : LockAction → Prop
  | .acquire ticket request =>
      table.sleepers[ticket]? = none → table.sleeps request.transaction = false
  | _ => True

instance (table : LockTable) : (action : LockAction) → Decidable (table.Sequential action)
  | .acquire ticket request => inferInstanceAs (Decidable
      (table.sleepers[ticket]? = none → table.sleeps request.transaction = false))
  | .release _ _ => isTrue trivial
  | .releaseAll _ => isTrue trivial
  | .interrupt _ => isTrue trivial

def SequentialFrom (table : LockTable) : List LockAction → Prop
  | [] => True
  | action :: rest => table.Sequential action ∧ (table.perform action).SequentialFrom rest

def decideSequentialFrom (table : LockTable) : (actions : List LockAction) →
    Decidable (table.SequentialFrom actions)
  | [] => isTrue trivial
  | action :: rest =>
      have := (table.perform action).decideSequentialFrom rest
      inferInstanceAs (Decidable (_ ∧ _))

instance (table : LockTable) (actions : List LockAction) :
    Decidable (table.SequentialFrom actions) :=
  table.decideSequentialFrom actions

theorem Coherent.sequential {table : LockTable} (coherent : table.Coherent) {action : LockAction}
    (sequential : table.Sequential action) : (table.perform action).Coherent := by
  cases action with
  | acquire ticket request => exact (coherent.acquire sequential).1
  | release transaction page => exact (coherent.release transaction page).1
  | releaseAll transaction => exact coherent.forget transaction
  | interrupt transaction => exact (coherent.interrupt transaction).1

theorem Coherent.sequentialFrom {table : LockTable} (coherent : table.Coherent)
    {actions : List LockAction} (sequential : table.SequentialFrom actions) :
    (actions.foldl LockTable.perform table).Coherent := by
  induction actions generalizing table with
  | nil => exact coherent
  | cons action rest ih => exact ih (coherent.sequential sequential.1) sequential.2

/-! ### Deadlocks that are there -/

/-- A check that finds a deadlock has found somebody in the way of the request whom the record leads
to from the one that makes it. -/
private theorem path_of_check {table : LockTable} (consistent : table.graph.Consistent)
    {ticket : Nat} {request : LockRequest} {session : SessionId} {refused : TransactionId}
    {onPage : PageId}
    (deadlock : (table.check ticket request session).2 = .refused (.deadlock refused onPage)) :
    refused = request.transaction ∧ onPage = request.page ∧
      ∃ holder, table.Opposes holder request ∧
        Relation.TransGen table.Delays request.transaction holder := by
  rcases table.check_cases ticket request session with
    ⟨_, result⟩ | ⟨_, graph, accepted, asked, verdicts⟩
  · rw [result] at deadlock
    cases deadlock
  · rcases verdicts with ⟨rfl, result⟩ | ⟨_, _, result⟩ | ⟨_, _, result⟩
    · rw [result] at deadlock
      cases deadlock
      have closes := (consistent.addWaits_eq_false_iff _ _ _).mp (congrArg Prod.snd asked)
      obtain ⟨holder, member, _, path⟩ := closes
      refine ⟨rfl, rfl, holder, opposes_iff_mem_opposing.mpr member, ?_⟩
      exact Relation.TransGen.mono
        (fun _ _ behind => consistent.hasEdge_iff.mpr behind) _ _ path
    · rw [result] at deadlock
      cases deadlock
    · rw [result] at deadlock
      cases deadlock

theorem Coherent.awaits_of_delays {table : LockTable} (coherent : table.Coherent)
    {holder waiter : TransactionId} (delays : table.Delays holder waiter) :
    table.Awaits holder waiter :=
  coherent.exists_blocked delays

theorem Coherent.circle_of_deadlock {table : LockTable} (coherent : table.Coherent) {ticket : Nat}
    {request : LockRequest} (again : ∀ sleeper : Sleeper, table.sleepers[ticket]? = some sleeper →
      sleeper.request = request) {refused : TransactionId} {onPage : PageId}
    (deadlock : (table.acquire ticket request).2 = .refused (.deadlock refused onPage)) :
    refused = request.transaction ∧ onPage = request.page ∧
      ∃ holder, table.Opposes holder request ∧
        Relation.TransGen table.Awaits request.transaction holder := by
  have checked {prepared : LockTable} {session : SessionId}
      (prepares : table.Prepares prepared ticket session)
      (deadlock : (prepared.check ticket request session).2 =
        .refused (.deadlock refused onPage)) :
      refused = request.transaction ∧ onPage = request.page ∧
        ∃ holder, table.Opposes holder request ∧
          Relation.TransGen table.Awaits request.transaction holder := by
    have consistent : prepared.graph.Consistent := by
      rw [prepares.graph]
      exact coherent.consistent
    obtain ⟨sameTransaction, samePage, holder, opposes, path⟩ := path_of_check consistent deadlock
    refine ⟨sameTransaction, samePage, holder, ?_, ?_⟩
    · unfold Opposes lockMode? at opposes ⊢
      rw [prepares.holders] at opposes
      exact opposes
    · unfold Delays at path
      rw [prepares.graph] at path
      exact Relation.TransGen.mono (fun _ _ delays => coherent.awaits_of_delays delays) _ _ path
  rcases table.acquire_cases ticket request with ⟨unused, same⟩ | ⟨sleeper, found, _, same⟩ |
    ⟨_, _, _, same⟩
  · rw [same] at deadlock
    exact checked (prepares_enroll unused request) deadlock
  · rw [same, again sleeper found] at deadlock
    exact checked (table.prepares_rouse ticket sleeper) deadlock
  · rw [same] at deadlock
    cases deadlock

/-- Whatever was done before, as long as no transaction made a request while one of its own slept: a
request that is refused for a deadlock, at its first check or at a later one, is opposed by a holder
of its page other than the transaction that makes it, and from that holder a chain of sleeping
requests, each opposed by the transaction that makes the next, leads back to that transaction. -/
theorem deadlocks_are_genuine {actions : List LockAction}
    (sequential : empty.SequentialFrom actions) {ticket : Nat} {request : LockRequest}
    (due : (run actions).Due ticket request) {refused : TransactionId} {onPage : PageId}
    (deadlock : ((run actions).acquire ticket request).2 = .refused (.deadlock refused onPage)) :
    refused = request.transaction ∧ onPage = request.page ∧
      ∃ first, first ≠ request.transaction ∧ (run actions).Opposes first request ∧
        Relation.TransGen (run actions).Awaits request.transaction first := by
  have coherent : (run actions).Coherent := coherent_empty.sequentialFrom sequential
  have again (sleeper : Sleeper) (found : (run actions).sleepers[ticket]? = some sleeper) :
      sleeper.request = request := by
    rcases due with ⟨unused, _⟩ | ⟨other, foundOther, _, same⟩
    · rw [unused] at found
      cases found
    · rw [foundOther] at found
      cases found
      exact same
  obtain ⟨sameTransaction, samePage, first, opposes, path⟩ :=
    coherent.circle_of_deadlock again deadlock
  exact ⟨sameTransaction, samePage, first, opposes.1, opposes, path⟩

/-- The second transaction sleeps for a page that the third came to share later, and is checked anew
when the first lets go of it. By then the third sleeps for a page of the second. -/
theorem deadlocks_are_genuine_late_share :
    let first : PageId := ⟨⟨0⟩, 1⟩
    let second : PageId := ⟨⟨0⟩, 2⟩
    let request : LockRequest := ⟨⟨2⟩, first, .exclusive⟩
    let actions : List LockAction :=
      [.acquire 0 ⟨⟨1⟩, first, .shared⟩, .acquire 1 ⟨⟨2⟩, second, .exclusive⟩,
        .acquire 2 request, .acquire 3 ⟨⟨3⟩, first, .shared⟩,
        .acquire 4 ⟨⟨3⟩, second, .shared⟩, .release ⟨1⟩ first]
    empty.SequentialFrom actions ∧ (run actions).Due 2 request ∧
      ((run actions).acquire 2 request).2 = .refused (.deadlock ⟨2⟩ first) ∧
        ∃ holder, holder ≠ ⟨2⟩ ∧ (run actions).Opposes holder request ∧
          Relation.TransGen (run actions).Awaits ⟨2⟩ holder := by
  intro first second request actions
  have sequential : empty.SequentialFrom actions := by decide +kernel
  have woken : (run actions).sleepers[2]? =
      some ⟨request, (run actions).sessionId ⟨2⟩, true⟩ := by decide +kernel
  have due : (run actions).Due 2 request := Or.inr ⟨_, woken, rfl, rfl⟩
  have deadlock : ((run actions).acquire 2 request).2 = .refused (.deadlock ⟨2⟩ first) := by
    decide +kernel
  exact ⟨sequential, due, deadlock, (deadlocks_are_genuine sequential due deadlock).2.2⟩

end RowStore.LockTable
