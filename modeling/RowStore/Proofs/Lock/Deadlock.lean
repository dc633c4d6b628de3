import RowStore.Proofs.Lock.Exclusion
import RowStore.Proofs.Lock.Waiting

/-!
Deadlock: requests are refused whose recorded waits would close a cycle. The record of a waiter is
as old as its last check. A holder that came to share the page since is not in it, and only through
such holders can transactions that sleep wait in a circle.
-/

set_option autoImplicit false

namespace RowStore.LockTable

/-- The waiter sleeps for a page whose holder stands in its way, recorded or not. -/
def Awaits (table : LockTable) (holder waiter : TransactionId) : Prop :=
  ∃ request, table.Blocked request ∧ request.transaction = waiter ∧ table.Opposes holder request

/-- Two transactions sleep, each for a page that the other holds: the third one came to share its
page while the second one already slept for it. -/
theorem late_share_closes_cycle :
    let first : PageId := ⟨⟨0⟩, 1⟩
    let second : PageId := ⟨⟨0⟩, 2⟩
    let actions : List LockAction :=
      [.acquire 0 ⟨⟨1⟩, first, .shared⟩, .acquire 1 ⟨⟨2⟩, second, .exclusive⟩,
        .acquire 2 ⟨⟨2⟩, first, .exclusive⟩, .acquire 3 ⟨⟨3⟩, first, .shared⟩,
        .acquire 4 ⟨⟨3⟩, second, .shared⟩]
    empty.OrderlyFrom actions ∧ (run actions).wokenTickets = [] ∧
      Relation.TransGen (run actions).Awaits ⟨2⟩ ⟨2⟩ := by
  intro first second actions
  have orderly : empty.OrderlyFrom actions := by decide +kernel
  have quiet : (run actions).wokenTickets = [] := by decide +kernel
  have secondSleeps : (run actions).sleepers[2]? =
      some ⟨⟨⟨2⟩, first, .exclusive⟩, (run actions).sessionId ⟨2⟩, false⟩ := by decide +kernel
  have thirdSleeps : (run actions).sleepers[4]? =
      some ⟨⟨⟨3⟩, second, .shared⟩, (run actions).sessionId ⟨3⟩, false⟩ := by decide +kernel
  have secondHolds : (run actions).lockMode? ⟨2⟩ second = some .exclusive := by decide +kernel
  have thirdHolds : (run actions).lockMode? ⟨3⟩ first = some .shared := by decide +kernel
  have behindSecond : (run actions).Awaits ⟨2⟩ ⟨3⟩ :=
    ⟨_, ⟨4, _, thirdSleeps, rfl⟩, rfl, by decide, .exclusive, secondHolds, rfl⟩
  have behindThird : (run actions).Awaits ⟨3⟩ ⟨2⟩ :=
    ⟨_, ⟨2, _, secondSleeps, rfl⟩, rfl, by decide, .shared, thirdHolds, rfl⟩
  exact ⟨orderly, quiet, (Relation.TransGen.single behindSecond).tail behindThird⟩

/-! ### Late shares -/

/-- Since some moment the sleeper has slept undisturbed, and the holder, which shares the page now,
did not have it at that moment. -/
def CameLater (actions : List LockAction) (ticket : Nat) (sleeper : Sleeper)
    (holder : TransactionId) : Prop :=
  ∃ before after, actions = before ++ after ∧
    (∀ middle, middle <+: after → (run (before ++ middle)).sleepers[ticket]? = some sleeper) ∧
      (run before).lockMode? holder sleeper.request.page = none ∧
        (run actions).lockMode? holder sleeper.request.page = some .shared

/-- The waiter sleeps for a page whose holder stands in its way, and did when the waiter was last
checked. -/
def AwaitsEarlier (actions : List LockAction) (holder waiter : TransactionId) : Prop :=
  ∃ (ticket : Nat) (sleeper : Sleeper), (run actions).sleepers[ticket]? = some sleeper ∧
    sleeper.request.transaction = waiter ∧ (run actions).Opposes holder sleeper.request ∧
      ¬CameLater actions ticket sleeper holder

private theorem CameLater.extend {actions : List LockAction} {action : LockAction} {ticket : Nat}
    {sleeper : Sleeper} {holder : TransactionId} (late : CameLater actions ticket sleeper holder)
    (found : (run (actions ++ [action])).sleepers[ticket]? = some sleeper)
    (shares : (run (actions ++ [action])).lockMode? holder sleeper.request.page = some .shared) :
    CameLater (actions ++ [action]) ticket sleeper holder := by
  obtain ⟨before, after, rfl, throughout, absent, _⟩ := late
  refine ⟨before, after ++ [action], List.append_assoc before after [action], ?_, absent, shares⟩
  intro middle initial
  rcases List.prefix_concat_iff.mp initial with rfl | shorter
  · rw [← List.append_assoc]
    exact found
  · exact throughout middle shorter

private theorem CameLater.start {actions : List LockAction} {action : LockAction} {ticket : Nat}
    {sleeper : Sleeper} {holder : TransactionId}
    (foundBefore : (run actions).sleepers[ticket]? = some sleeper)
    (found : (run (actions ++ [action])).sleepers[ticket]? = some sleeper)
    (absent : (run actions).lockMode? holder sleeper.request.page = none)
    (shares : (run (actions ++ [action])).lockMode? holder sleeper.request.page = some .shared) :
    CameLater (actions ++ [action]) ticket sleeper holder := by
  refine ⟨actions, [action], rfl, ?_, absent, shares⟩
  intro middle initial
  rw [← List.nil_append [action], List.prefix_concat_iff] at initial
  rcases initial with rfl | shorter
  · exact found
  · rw [List.prefix_nil.mp shorter, List.append_nil]
    exact foundBefore

/-- Whoever has the page to itself while a request for it sleeps unwoken is in the record. -/
private theorem Sound.mem_waits_of_exclusive {table : LockTable} (sound : table.Sound)
    (exclusive : table.IsExclusive) {ticket : Nat} {sleeper : Sleeper}
    (found : table.sleepers[ticket]? = some sleeper) (asleep : sleeper.woken = false)
    {holder : TransactionId}
    (owns : table.lockMode? holder sleeper.request.page = some .exclusive) :
    ⟨holder, sleeper.request.page, sleeper.request.transaction⟩ ∈ table.graph.waits := by
  obtain ⟨recorded, present, _, held, holds, _⟩ := sound.exists_wait found asleep
  have same := (exclusive sleeper.request.page).eq_of_modeOf? owns holds
  rw [← same]
  exact present

/-- Whoever is in the way of a request that sleeps unwoken is in the record, or came later. -/
theorem recorded_or_cameLater {actions : List LockAction} (orderly : empty.OrderlyFrom actions)
    {ticket : Nat} {sleeper : Sleeper}
    (found : (run actions).sleepers[ticket]? = some sleeper) (asleep : sleeper.woken = false)
    {holder : TransactionId} (opposes : (run actions).Opposes holder sleeper.request) :
    ⟨holder, sleeper.request.page, sleeper.request.transaction⟩ ∈ (run actions).graph.waits ∨
      CameLater actions ticket sleeper holder := by
  induction actions using List.reverseRecOn generalizing ticket sleeper holder with
  | nil => simp [run, empty] at found
  | append_singleton before action ih =>
      have sound := sound_run orderly
      have exclusive := isExclusive_run (before ++ [action])
      obtain ⟨orderlyBefore, allowed⟩ := orderlyFrom_append.mp orderly
      have soundBefore := sound_run orderlyBefore
      obtain ⟨_, leads⟩ := soundBefore.coherent.perform soundBefore.accounted allowed
      rw [← run_append_singleton] at leads
      rcases leads ticket sleeper found asleep with ⟨foundBefore, keeps⟩ | ⟨_, waits⟩
      · obtain ⟨different, held, holds, conflict⟩ := opposes
        cases held with
        | exclusive =>
            exact Or.inl (sound.mem_waits_of_exclusive exclusive found asleep holds)
        | shared =>
            -- Only an exclusive request is opposed by a share, and it is opposed by any hold.
            have opposedBy (mode : LockMode) :
                sleeper.request.mode.compatible mode = false := by
              cases asked : sleeper.request.mode with
              | shared =>
                  rw [asked] at conflict
                  cases conflict
              | exclusive => rfl
            cases earlier : (run before).lockMode? holder sleeper.request.page with
            | none => exact Or.inr (CameLater.start foundBefore found earlier holds)
            | some mode =>
                rcases ih orderlyBefore foundBefore asleep
                  ⟨different, mode, earlier, opposedBy mode⟩ with recorded | late
                · exact Or.inl (keeps _ recorded rfl rfl)
                · exact Or.inr (late.extend found holds)
      · exact Or.inl (waits holder opposes)

/-! ### Refusals -/

/-- The request is to be checked now, for the first time or anew. -/
def Due (table : LockTable) (ticket : Nat) (request : LockRequest) : Prop :=
  (table.sleepers[ticket]? = none ∧ table.sleeps request.transaction = false) ∨
    ∃ sleeper : Sleeper, table.sleepers[ticket]? = some sleeper ∧ sleeper.woken = true ∧
      sleeper.request = request

private theorem check_closes_cycle {table : LockTable} (consistent : table.graph.Consistent)
    (ticket : Nat) {request : LockRequest} (session : SessionId) {holder : TransactionId}
    (opposes : table.Opposes holder request)
    (path : Relation.TransGen table.Delays request.transaction holder) :
    (table.check ticket request session).2 =
      .refused (.deadlock request.transaction request.page) := by
  have member := opposes_iff_mem_opposing.mp opposes
  rcases table.check_cases ticket request session with
    ⟨unopposed, _⟩ | ⟨_, graph, accepted, asked, verdicts⟩
  · rw [unopposed] at member
    cases member
  · cases accepted with
    | true =>
        obtain ⟨accepts, waits⟩ := consistent.addWaits_true asked
        have older : Relation.TransGen (WaitGraph.Behind graph.waitSet)
            request.transaction holder := by
          refine Relation.TransGen.mono ?_ _ _ path
          intro first last delays
          obtain ⟨page, present⟩ := consistent.hasEdge_iff.mp delays
          refine ⟨page, WaitGraph.mem_waitSet.mpr ((waits _).mpr (Or.inl ?_))⟩
          exact WaitGraph.mem_waitSet.mp present
        have closing : WaitGraph.Behind graph.waitSet holder request.transaction :=
          ⟨request.page, WaitGraph.mem_waitSet.mpr
            ((waits _).mpr (Or.inr ⟨rfl, rfl, member, opposes.1⟩))⟩
        exact absurd (older.tail closing) (accepts.ranked.no_cycle request.transaction)
    | false =>
        rcases verdicts with ⟨_, result⟩ | ⟨impossible, _⟩ | ⟨impossible, _⟩
        · rw [result]
        · cases impossible
        · cases impossible

theorem Coherent.acquire_closes_cycle {table : LockTable} (coherent : table.Coherent)
    {ticket : Nat} {request : LockRequest} (due : table.Due ticket request)
    {holder : TransactionId} (opposes : table.Opposes holder request)
    (path : Relation.TransGen table.Delays request.transaction holder) :
    (table.acquire ticket request).2 =
      .refused (.deadlock request.transaction request.page) := by
  have checked {prepared : LockTable} {session : SessionId}
      (prepares : table.Prepares prepared ticket session) :
      (prepared.check ticket request session).2 =
        .refused (.deadlock request.transaction request.page) := by
    apply check_closes_cycle
    · rw [prepares.graph]
      exact coherent.consistent
    · unfold Opposes lockMode?
      rw [prepares.holders]
      exact opposes
    · unfold Delays
      rw [prepares.graph]
      exact path
  rcases due with ⟨unused, _⟩ | ⟨sleeper, found, woken, rfl⟩
  · rcases table.acquire_cases ticket request with ⟨_, same⟩ | ⟨_, found, _⟩ | ⟨_, found, _⟩
    · rw [same]
      exact checked (prepares_enroll unused request)
    · rw [unused] at found
      cases found
    · rw [unused] at found
      cases found
  · rcases table.acquire_cases ticket sleeper.request with ⟨unused, _⟩ |
      ⟨again, foundAgain, _, same⟩ | ⟨again, foundAgain, asleep, _⟩
    · rw [found] at unused
      cases unused
    · rw [found] at foundAgain
      cases foundAgain
      rw [same]
      exact checked (table.prepares_rouse ticket sleeper)
    · rw [found] at foundAgain
      cases foundAgain
      rw [woken] at asleep
      cases asleep

/-- After every orderly run: if nobody is left to be checked anew, whoever was in a sleeper's way at
its last check and is now delays it by the record, and such transactions wait in no circle; and a
request that is checked, for the first time or anew, is refused if somebody in its way waits by the
record, over however many others, behind the transaction that makes it. -/
theorem cycles_are_refused {actions : List LockAction} (orderly : empty.OrderlyFrom actions) :
    ((run actions).wokenTickets = [] →
      (∀ holder waiter, AwaitsEarlier actions holder waiter →
        (run actions).Delays holder waiter) ∧
      ∀ transaction, ¬Relation.TransGen (AwaitsEarlier actions) transaction transaction) ∧
    ∀ ticket request holder, (run actions).Due ticket request →
      (run actions).Opposes holder request →
        Relation.TransGen (run actions).Delays request.transaction holder →
          ((run actions).acquire ticket request).2 =
            .refused (.deadlock request.transaction request.page) := by
  have sound := sound_run orderly
  constructor
  · intro quiet
    have recorded (holder waiter : TransactionId) (early : AwaitsEarlier actions holder waiter) :
        (run actions).Delays holder waiter := by
      obtain ⟨ticket, sleeper, found, rfl, opposes, notLate⟩ := early
      rcases recorded_or_cameLater orderly found (woken_eq_false quiet found) opposes with
        present | late
      · exact sound.coherent.delays_of_mem present
      · exact absurd late notLate
    refine ⟨recorded, ?_⟩
    intro transaction cycle
    exact sound.coherent.no_cycle transaction (Relation.TransGen.mono recorded _ _ cycle)
  · intro ticket request holder due opposes path
    exact sound.coherent.acquire_closes_cycle due opposes path

/-- The second transaction sleeps for a page of the first, which then asks for one of the second. -/
theorem cycles_are_refused_crossed :
    let first : PageId := ⟨⟨0⟩, 1⟩
    let second : PageId := ⟨⟨0⟩, 2⟩
    let actions : List LockAction :=
      [.acquire 0 ⟨⟨1⟩, first, .exclusive⟩, .acquire 1 ⟨⟨2⟩, second, .exclusive⟩,
        .acquire 2 ⟨⟨2⟩, first, .shared⟩]
    let request : LockRequest := ⟨⟨1⟩, second, .shared⟩
    empty.OrderlyFrom actions ∧ (run actions).wokenTickets = [] ∧
      (run actions).Due 3 request ∧ (run actions).Opposes ⟨2⟩ request ∧
        Relation.TransGen (run actions).Delays request.transaction ⟨2⟩ ∧
          ((run actions).acquire 3 request).2 = .refused (.deadlock ⟨1⟩ second) ∧
            ¬Relation.TransGen (AwaitsEarlier actions) ⟨1⟩ ⟨1⟩ := by
  intro first second actions request
  have orderly : empty.OrderlyFrom actions := by decide +kernel
  have quiet : (run actions).wokenTickets = [] := by decide +kernel
  have due : (run actions).Due 3 request := Or.inl (by decide +kernel)
  have holds : (run actions).lockMode? ⟨2⟩ second = some .exclusive := by decide +kernel
  have opposes : (run actions).Opposes ⟨2⟩ request := ⟨by decide, .exclusive, holds, rfl⟩
  have delays : (run actions).Delays ⟨1⟩ ⟨2⟩ := by
    unfold Delays
    decide +kernel
  obtain ⟨circles, refusals⟩ := cycles_are_refused orderly
  exact ⟨orderly, quiet, due, opposes, .single delays,
    refusals 3 request ⟨2⟩ due opposes (.single delays), (circles quiet).2 ⟨1⟩⟩

end RowStore.LockTable
