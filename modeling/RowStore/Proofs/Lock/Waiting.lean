import RowStore.Proofs.Lock.Coherence

/-!
Waiting: in a table where nobody is left to be checked anew, whoever sleeps waits by the record
behind a holder that is in its way, and following such waits ends with somebody who does not sleep.
-/

set_option autoImplicit false

namespace RowStore.LockTable

/-- The waiter waits behind the holder, by the record. -/
def Delays (table : LockTable) (holder waiter : TransactionId) : Prop :=
  table.graph.hasEdge holder waiter = true

/-- What sleeps unwoken has a wait on its page. -/
def Recorded (table : LockTable) : Prop :=
  ∀ (ticket : Nat) (sleeper : Sleeper), table.sleepers[ticket]? = some sleeper →
    sleeper.woken = false →
      ∃ holder, ⟨holder, sleeper.request.page, sleeper.request.transaction⟩ ∈ table.graph.waits

theorem Recorded.next {table next : LockTable} (recorded : table.Recorded)
    (leads : table.Leads next) : next.Recorded := by
  intro ticket sleeper found asleep
  rcases leads ticket sleeper found asleep with ⟨before, keeps⟩ | ⟨⟨holder, opposes⟩, waits⟩
  · obtain ⟨holder, present⟩ := recorded ticket sleeper before asleep
    exact ⟨holder, keeps _ present rfl rfl⟩
  · exact ⟨holder, waits holder opposes⟩

structure Sound (table : LockTable) : Prop where
  accounted : table.Accounted
  coherent : table.Coherent
  recorded : table.Recorded

theorem Sound.perform {table : LockTable} (sound : table.Sound) {action : LockAction}
    (orderly : table.Orderly action) : (table.perform action).Sound := by
  obtain ⟨coherent, leads⟩ := sound.coherent.perform sound.accounted orderly
  exact ⟨sound.accounted.perform orderly, coherent, sound.recorded.next leads⟩

theorem sound_empty : empty.Sound := by
  refine ⟨accounted_empty, coherent_empty, ?_⟩
  intro ticket sleeper found
  simp [empty] at found

theorem sound_run {actions : List LockAction} (orderly : empty.OrderlyFrom actions) :
    (run actions).Sound :=
  orderlyFrom_invariant (fun _ _ sound orderly => sound.perform orderly) sound_empty orderly

theorem woken_eq_false {table : LockTable} (quiet : table.wokenTickets = []) {ticket : Nat}
    {sleeper : Sleeper} (found : table.sleepers[ticket]? = some sleeper) :
    sleeper.woken = false := by
  by_contra woken
  have member : ticket ∈ table.wokenTickets := by
    simp only [wokenTickets, List.mem_map, List.mem_filter]
    exact ⟨(ticket, sleeper),
      ⟨Std.ExtTreeMap.mem_toList_iff_getElem?_eq_some.mpr found, by simpa using woken⟩, rfl⟩
  rw [quiet] at member
  cases member

/-- A recorded edge leads from a request that sleeps to a holder that stands in its way. -/
theorem Coherent.exists_blocked {table : LockTable} (coherent : table.Coherent)
    {holder waiter : TransactionId} (delays : table.Delays holder waiter) :
    ∃ request, table.Blocked request ∧ request.transaction = waiter ∧
      table.Opposes holder request := by
  obtain ⟨page, present⟩ := coherent.consistent.hasEdge_iff.mp delays
  obtain ⟨ticket, sleeper, found, of, _, opposes⟩ :=
    coherent.genuine _ (WaitGraph.mem_waitSet.mp present)
  exact ⟨sleeper.request, ⟨ticket, sleeper, found, rfl⟩, of, opposes⟩

theorem Coherent.wellFounded_delays {table : LockTable} (coherent : table.Coherent) :
    WellFounded table.Delays := by
  obtain ⟨rank, increases⟩ := coherent.consistent.ranked
  apply Subrelation.wf _ (measure rank).wf
  intro holder waiter delays
  obtain ⟨page, present⟩ := coherent.consistent.hasEdge_iff.mp delays
  exact increases _ present

theorem Coherent.no_cycle {table : LockTable} (coherent : table.Coherent)
    (transaction : TransactionId) : ¬Relation.TransGen table.Delays transaction transaction := by
  intro cycle
  have recorded : Relation.TransGen (WaitGraph.Behind table.graph.waitSet)
      transaction transaction :=
    Relation.TransGen.mono (fun _ _ delays => coherent.consistent.hasEdge_iff.mp delays) _ _ cycle
  exact coherent.consistent.ranked.no_cycle transaction recorded

theorem Sound.exists_wait {table : LockTable} (sound : table.Sound) {ticket : Nat}
    {sleeper : Sleeper} (found : table.sleepers[ticket]? = some sleeper)
    (asleep : sleeper.woken = false) :
    ∃ holder, ⟨holder, sleeper.request.page, sleeper.request.transaction⟩ ∈ table.graph.waits ∧
      table.Opposes holder sleeper.request := by
  obtain ⟨holder, present⟩ := sound.recorded ticket sleeper found asleep
  refine ⟨holder, present, ?_⟩
  obtain ⟨other, again, foundAgain, of, _, opposes⟩ := sound.coherent.genuine _ present
  have sameTicket := sound.coherent.single other ticket again sleeper foundAgain found of
  rw [sameTicket, found] at foundAgain
  cases foundAgain
  exact opposes

theorem Coherent.delays_of_mem {table : LockTable} (coherent : table.Coherent)
    {holder waiter : TransactionId} {page : PageId}
    (present : ⟨holder, page, waiter⟩ ∈ table.graph.waits) : table.Delays holder waiter :=
  coherent.consistent.hasEdge_iff.mpr ⟨page, WaitGraph.mem_waitSet.mpr present⟩

/-- From a request that sleeps, waits lead to one whose way is blocked by somebody awake. -/
theorem Sound.exists_awake_holder {table : LockTable} (sound : table.Sound)
    (quiet : table.wokenTickets = []) {request : LockRequest} (blocked : table.Blocked request) :
    ∃ last holder, table.Blocked last ∧
      Relation.ReflTransGen table.Delays last.transaction request.transaction ∧
        table.Delays holder last.transaction ∧ table.Opposes holder last ∧
          table.sleeps holder = false := by
  induction of : request.transaction using sound.coherent.wellFounded_delays.induction
    generalizing request with
  | _ waiter ih =>
      obtain ⟨ticket, sleeper, found, rfl⟩ := blocked
      obtain ⟨holder, present, opposes⟩ := sound.exists_wait found (woken_eq_false quiet found)
      have delays := sound.coherent.delays_of_mem present
      cases asleep : table.sleeps holder with
      | false =>
          refine ⟨sleeper.request, holder, ⟨ticket, sleeper, found, rfl⟩, ?_, delays, opposes,
            asleep⟩
          rw [of]
      | true =>
          obtain ⟨next, nextBlocked, nextOf⟩ := sleeps_eq_true_iff_blocked.mp asleep
          rw [of] at delays
          obtain ⟨last, free, lastBlocked, path, rest⟩ := ih holder delays nextBlocked nextOf
          exact ⟨last, free, lastBlocked, path.tail delays, rest⟩

/-- After every orderly run that leaves nobody to be checked anew: a request that sleeps has a
recorded wait on its page behind a holder in its way; a recorded edge is always behind such a
holder; no chain of recorded edges goes on for ever; and from every request that sleeps one leads to
a holder that is in the way and does not sleep. -/
theorem waiting_ends {actions : List LockAction} (orderly : empty.OrderlyFrom actions)
    (quiet : (run actions).wokenTickets = []) :
    (∀ request, (run actions).Blocked request →
      ∃ holder, ⟨holder, request.page, request.transaction⟩ ∈ (run actions).graph.waits ∧
        (run actions).Opposes holder request) ∧
    (∀ holder waiter, (run actions).Delays holder waiter →
      ∃ request, (run actions).Blocked request ∧ request.transaction = waiter ∧
        (run actions).Opposes holder request) ∧
    WellFounded (run actions).Delays ∧
    ∀ request, (run actions).Blocked request →
      ∃ last holder, (run actions).Blocked last ∧
        Relation.ReflTransGen (run actions).Delays last.transaction request.transaction ∧
          (run actions).Delays holder last.transaction ∧ (run actions).Opposes holder last ∧
            (run actions).sleeps holder = false := by
  have sound := sound_run orderly
  refine ⟨?_, ?_, sound.coherent.wellFounded_delays, ?_⟩
  · intro request blocked
    obtain ⟨ticket, sleeper, found, rfl⟩ := blocked
    exact sound.exists_wait found (woken_eq_false quiet found)
  · intro holder waiter delays
    exact sound.coherent.exists_blocked delays
  · intro request blocked
    exact sound.exists_awake_holder quiet blocked

/-- The third transaction sleeps for a page of the second, which sleeps for a page of the first. -/
theorem waiting_ends_chain :
    let first : PageId := ⟨⟨0⟩, 1⟩
    let second : PageId := ⟨⟨0⟩, 2⟩
    let request : LockRequest := ⟨⟨3⟩, second, .shared⟩
    let actions : List LockAction :=
      [.acquire 0 ⟨⟨1⟩, first, .exclusive⟩, .acquire 1 ⟨⟨2⟩, second, .exclusive⟩,
        .acquire 2 ⟨⟨2⟩, first, .shared⟩, .acquire 3 request]
    empty.OrderlyFrom actions ∧ (run actions).wokenTickets = [] ∧
      ∃ last holder, (run actions).Blocked last ∧
        Relation.ReflTransGen (run actions).Delays last.transaction request.transaction ∧
          (run actions).Delays holder last.transaction ∧ (run actions).Opposes holder last ∧
            (run actions).sleeps holder = false := by
  intro first second request actions
  have orderly : empty.OrderlyFrom actions := by decide +kernel
  have quiet : (run actions).wokenTickets = [] := by decide +kernel
  have asleep : (run actions).sleepers[3]? =
      some ⟨request, (run actions).sessionId ⟨3⟩, false⟩ := by decide +kernel
  exact ⟨orderly, quiet,
    (waiting_ends orderly quiet).2.2.2 request ⟨3, _, asleep, rfl⟩⟩

end RowStore.LockTable
