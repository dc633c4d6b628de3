import RowStore.Proofs.Lock.Refusals
import RowStore.Proofs.Lock.Sparing

/-!
Denials: what is left of a request that was refused. From its first check to its last, whoever came
and went in between, the steps of the call give nothing away and take nothing back, and in the end
no wait of it is left.
-/

set_option autoImplicit false

namespace RowStore.LockTable

/-! ### Refusals -/

section

variable {table : LockTable} {ticket : Nat} {request : LockRequest}

/-- A request is refused for a cycle, which leaves all interrupts as they are, or for the interrupt
of its session, which is used up. Either way somebody is in its way. -/
theorem acquire_refused (again : ∀ sleeper : Sleeper, table.sleepers[ticket]? = some sleeper →
      sleeper.request = request) {fault : Fault}
    (refused : (table.acquire ticket request).2 = .refused fault) :
    (∃ holder, table.Opposes holder request) ∧
    ((fault = .deadlock request.transaction request.page ∧ ∀ id,
        ((table.acquire ticket request).1.session id).interrupted =
          (table.session id).interrupted) ∨
      (fault = .interrupted request.transaction ∧
        (table.session (table.sessionOf ticket request)).interrupted = true ∧ ∀ id,
          ((table.acquire ticket request).1.session id).interrupted =
            if id = table.sessionOf ticket request then false
            else (table.session id).interrupted)) := by
  rcases acquire_readies again with ⟨_, _, _, same⟩ | ⟨prepared, readies, same⟩
  · rw [same] at refused
    cases refused
  · rw [same] at refused ⊢
    rcases prepared.check_cases ticket request (table.sessionOf ticket request) with
      ⟨_, result⟩ | ⟨opposed, graph, accepted, _, verdicts⟩
    · rw [result] at refused
      cases refused
    · rw [readies.holders] at opposed
      obtain ⟨holder, member⟩ := List.exists_mem_of_ne_nil _ opposed
      refine ⟨⟨holder, opposes_iff_mem_opposing.mpr member⟩, ?_⟩
      rcases verdicts with ⟨_, result⟩ | ⟨_, marked, result⟩ | ⟨_, _, result⟩
      · rw [result] at refused ⊢
        cases refused
        exact Or.inl ⟨rfl, readies.interrupted⟩
      · rw [result] at refused ⊢
        cases refused
        refine Or.inr ⟨rfl, ?_, ?_⟩
        · rw [← readies.interrupted]
          exact marked
        · intro id
          rw [← readies.interrupted]
          change ((prepared.sessions.insert _ _).getD id Session.new).interrupted = _
          rw [session_insert, apply_ite Session.interrupted]
          simp only [Session.consumeInterrupt, @eq_comm _ _ id]
      · rw [result] at refused
        cases refused

/-- Whoever sleeps under the ticket of a request that is to be checked sleeps with this request. -/
theorem Due.asked (due : table.Due ticket request) (sleeper : Sleeper)
    (found : table.sleepers[ticket]? = some sleeper) : sleeper.request = request := by
  rcases due with ⟨unused, _⟩ | ⟨other, foundOther, _, same⟩
  · rw [unused] at found
    cases found
  · rw [foundOther] at found
    cases found
    exact same

/-- A transaction with one request at a time has none asleep once that one was refused. -/
theorem Coherent.awake_of_refused (coherent : table.Coherent) (due : table.Due ticket request)
    {fault : Fault} (refused : (table.acquire ticket request).2 = .refused fault) :
    (table.acquire ticket request).1.sleeps request.transaction = false := by
  have answers := answers_acquire due.asked
  rw [sleeps_eq_false]
  intro other sleeper found own
  by_cases same : other = ticket
  · subst same
    rw [refused] at answers
    cases (answers.asleep sleeper found).1
  · rw [answers.others other same] at found
    rcases due with ⟨_, awake⟩ | ⟨mine, foundMine, _, rfl⟩
    · exact sleeps_eq_false.mp awake other sleeper found own
    · exact same (coherent.single other ticket sleeper mine found foundMine own)

theorem Coherent.no_wait_of_awake (coherent : table.Coherent) {transaction : TransactionId}
    (awake : table.sleeps transaction = false) :
    ∀ wait ∈ table.graph.waits, wait.waiter ≠ transaction := by
  rintro wait present rfl
  obtain ⟨other, sleeper, found, own, _⟩ := coherent.genuine wait present
  exact sleeps_eq_false.mp awake other sleeper found own

theorem Seated.not_isWaiting (seated : table.Seated) {transaction : TransactionId}
    (awake : table.sleeps transaction = false) : table.isWaiting transaction = false := by
  rw [isWaiting_eq, Option.isSome_eq_false_iff, Option.isNone_iff_eq_none]
  by_contra waits
  obtain ⟨other, sleeper, found, its⟩ := seated.waiting _ waits
  apply sleeps_eq_false.mp awake other sleeper found
  rw [← (seated.owned other sleeper found).1, its, sessionId]

end

/-! ### The steps of a call -/

/-- After the earlier actions comes a check of the call that the actions end with: from it on the
ticket is in use until their last. -/
def Calls (actions : List LockAction) (ticket : Nat) (before : List LockAction)
    (request : LockRequest) : Prop :=
  ∃ after, actions = before ++ .acquire ticket request :: after ∧
    ∀ middle rest, after = middle ++ rest → rest ≠ [] →
      (run (before ++ .acquire ticket request :: middle)).sleepers[ticket]? ≠ none

theorem request_of_perform {table : LockTable} {action : LockAction} {ticket : Nat}
    {before after : Sleeper} (found : table.sleepers[ticket]? = some before)
    (foundAfter : (table.perform action).sleepers[ticket]? = some after) :
    after.request = before.request := by
  have woken {page : PageId} (foundWoken : (table.wake page).sleepers[ticket]? = some after) :
      after.request = before.request := by
    obtain ⟨earlier, foundEarlier, same, _⟩ := sleeper_of_wake foundWoken
    rw [found] at foundEarlier
    cases foundEarlier
    exact same.symm
  cases action with
  | acquire other request =>
      obtain ⟨asked, again, same⟩ := table.exists_asked other request
      rw [perform, same] at foundAfter
      have answers := answers_acquire again
      by_cases own : ticket = other
      · subst own
        rw [(answers.asleep after foundAfter).2, again before found]
      · rw [answers.others ticket own, found] at foundAfter
        cases foundAfter
        rfl
  | release transaction page =>
      by_cases untracked : table.pages[page]? = none
      · rw [perform, release_untracked untracked, found] at foundAfter
        cases foundAfter
        rfl
      · rw [perform, sleepers_release untracked] at foundAfter
        exact woken foundAfter
  | releaseAll transaction =>
      obtain ⟨earlier, foundEarlier, same⟩ := sleeper_of_foldl_release foundAfter
      rw [found] at foundEarlier
      cases foundEarlier
      exact same.symm
  | interrupt transaction =>
      rcases (table.interrupt_cases transaction).2.2 with ⟨_, same⟩ | ⟨page, _, same⟩
      · rw [perform, same, found] at foundAfter
        cases foundAfter
        rfl
      · rw [perform, same] at foundAfter
        exact woken foundAfter

theorem request_of_foldl {table : LockTable} {actions : List LockAction} {ticket : Nat}
    (occupied : ∀ middle, middle <+: actions →
      (middle.foldl perform table).sleepers[ticket]? ≠ none)
    {before after : Sleeper} (found : table.sleepers[ticket]? = some before)
    (foundAfter : (actions.foldl perform table).sleepers[ticket]? = some after) :
    after.request = before.request := by
  induction actions generalizing table before with
  | nil =>
      rw [List.foldl_nil, found] at foundAfter
      cases foundAfter
      rfl
  | cons action rest ih =>
      obtain ⟨middle, foundMiddle⟩ := Option.ne_none_iff_exists'.mp
        (occupied [action] ⟨rest, rfl⟩)
      have later (prefixed : List LockAction) (part : prefixed <+: rest) :=
        occupied (action :: prefixed) (List.cons_prefix_cons.mpr ⟨rfl, part⟩)
      rw [ih later foundMiddle foundAfter]
      exact request_of_perform found foundMiddle

theorem Calls.asked {actions before : List LockAction} {ticket : Nat}
    {request asked : LockRequest}
    (last : ∀ sleeper : Sleeper, (run actions).sleepers[ticket]? = some sleeper →
      sleeper.request = request)
    (calls : Calls (actions ++ [.acquire ticket request]) ticket before asked) :
    (∀ sleeper : Sleeper, (run before).sleepers[ticket]? = some sleeper →
      sleeper.request = request) ∧
    (run before).acquire ticket asked = (run before).acquire ticket request ∧
      (before ≠ actions → ((run before).acquire ticket request).2 = .asleep) := by
  obtain ⟨after, split, occupied⟩ := calls
  -- Either the check is the last action itself, or the ticket is in use from it up to the last one,
  -- so that one and the same request sleeps under it at both ends.
  rcases List.eq_nil_or_concat' after with rfl | ⟨rest, final, rfl⟩
  · obtain ⟨rfl, same⟩ := List.append_inj' split rfl
    cases same
    exact ⟨last, rfl, fun different => absurd rfl different⟩
  · rw [← List.cons_append, ← List.append_assoc] at split
    obtain ⟨rfl, same⟩ := List.append_inj' split rfl
    cases same
    have stays (middle : List LockAction) (part : middle <+: rest) :
        (middle.foldl perform (run (before ++ [.acquire ticket asked]))).sleepers[ticket]? ≠
          none := by
      obtain ⟨remaining, rfl⟩ := part
      have used := occupied middle (remaining ++ [.acquire ticket request]) (by simp) (by simp)
      rw [← List.singleton_append, ← List.append_assoc, run, List.foldl_append] at used
      exact used
    obtain ⟨first, foundFirst⟩ := Option.ne_none_iff_exists'.mp (stays [] List.nil_prefix)
    obtain ⟨final, foundFinal⟩ := Option.ne_none_iff_exists'.mp (stays rest List.prefix_rfl)
    have sameRequest := request_of_foldl stays foundFirst foundFinal
    rw [run, ← List.foldl_append, List.append_assoc, List.singleton_append] at foundFinal
    have lastRequest := last final foundFinal
    obtain ⟨checked, again, same⟩ := (run before).exists_asked ticket asked
    rw [List.foldl_nil, run_append_singleton, perform, same] at foundFirst
    obtain ⟨asleep, ofFirst⟩ := (answers_acquire again).asleep first foundFirst
    have isLast : checked = request := by
      rw [← ofFirst, ← sameRequest, lastRequest]
    subst isLast
    exact ⟨again, same, fun _ => asleep⟩

/-! ### Nothing is left of a denial -/

/-- From one table to the next nothing was given away or taken back, and the waits of all but the
transaction stand as they stood. -/
structure Traceless (table next : LockTable) (transaction : TransactionId) : Prop
    extends table.Withholds next where
  edges : ∀ edge : WaitEdge, edge.waiter ≠ transaction →
    next.graph.edges[edge]? = table.graph.edges[edge]?
  waits : ∀ wait : Wait, wait.waiter ≠ transaction →
    (wait ∈ next.graph.waits ↔ wait ∈ table.graph.waits)

/-- What is so once a request was refused in the table: its transaction waits for nothing, and of
the interrupts just the one that the request was refused for is used up. -/
structure Denies (table next : LockTable) (ticket : Nat) (request : LockRequest) (fault : Fault) :
    Prop where
  cause : fault = .deadlock request.transaction request.page ∨
    fault = .interrupted request.transaction
  waits : ∀ wait ∈ next.graph.waits, wait.waiter ≠ request.transaction
  edges : ∀ holder, next.graph.hasEdge holder request.transaction = false
  awake : next.sleeps request.transaction = false
  waiting : next.isWaiting request.transaction = false
  deadlock : fault = .deadlock request.transaction request.page →
    ∀ id, (next.session id).interrupted = (table.session id).interrupted
  interrupted : fault = .interrupted request.transaction →
    (table.session (table.sessionOf ticket request)).interrupted = true ∧
    (next.session (table.sessionOf ticket request)).interrupted = false ∧
      ∀ id, id ≠ table.sessionOf ticket request →
        (next.session id).interrupted = (table.session id).interrupted

theorem Grounded.traceless {table : LockTable} (grounded : table.Grounded) {ticket : Nat}
    {request : LockRequest} (again : ∀ sleeper : Sleeper, table.sleepers[ticket]? = some sleeper →
      sleeper.request = request) (notGranted : (table.acquire ticket request).2 ≠ .granted) :
    table.Traceless (table.acquire ticket request).1 request.transaction := by
  have spares := grounded.spares again
  refine ⟨acquire_withholds again notGranted, ?_, spares.waits⟩
  intro edge different
  exact spares.getElem?_edges grounded.consistent (grounded.acquire ticket request).consistent
    different

theorem Coherent.denies {table : LockTable} (coherent : table.Coherent) (grounded : table.Grounded)
    {ticket : Nat} {request : LockRequest} (due : table.Due ticket request) {fault : Fault}
    (refused : (table.acquire ticket request).2 = .refused fault) :
    table.Denies (table.acquire ticket request).1 ticket request fault := by
  have awake := coherent.awake_of_refused due refused
  have sequential : table.Sequential (.acquire ticket request) := by
    intro unused
    rcases due with ⟨_, free⟩ | ⟨_, found, _⟩
    · exact free
    · rw [unused] at found
      cases found
  have next := coherent.sequential sequential
  have nowhere := next.no_wait_of_awake awake
  obtain ⟨_, outcome⟩ := acquire_refused due.asked refused
  refine ⟨?_, nowhere, ?_, awake, (grounded.acquire ticket request).not_isWaiting awake, ?_, ?_⟩
  · exact outcome.imp And.left And.left
  · intro holder
    rw [← Bool.not_eq_true]
    intro edge
    obtain ⟨page, present⟩ := next.consistent.hasEdge_iff.mp edge
    exact nowhere _ (WaitGraph.mem_waitSet.mp present) rfl
  · rintro rfl
    rcases outcome with ⟨_, kept⟩ | ⟨impossible, _⟩
    · exact kept
    · cases impossible
  · rintro rfl
    rcases outcome with ⟨impossible, _⟩ | ⟨_, marked, spent⟩
    · cases impossible
    · refine ⟨marked, ?_, ?_⟩
      · rw [spent, if_pos rfl]
      · intro id different
        rw [spent, if_neg different]

theorem lockMode?_foldl_covers {table : LockTable} {actions : List LockAction}
    {holder : TransactionId} {page : PageId} {held : LockMode}
    (holds : table.lockMode? holder page = some held)
    (notReleased : .release holder page ∉ actions) (notEnded : .releaseAll holder ∉ actions) :
    ∃ kept, (actions.foldl perform table).lockMode? holder page = some kept ∧
      kept.Covers held := by
  induction actions generalizing table held with
  | nil => exact ⟨held, holds, LockMode.Covers.refl held⟩
  | cons action rest ih =>
      rw [List.mem_cons, not_or] at notReleased notEnded
      obtain ⟨middle, keeps, covers⟩ :=
        lockMode?_perform_covers holds (Ne.symm notReleased.1) (Ne.symm notEnded.1)
      obtain ⟨kept, keepsLater, coversLater⟩ := ih keeps notReleased.2 notEnded.2
      exact ⟨kept, keepsLater, fun exclusive => coversLater (covers exclusive)⟩

/-- Whatever was done before, as long as no transaction made a request while one of its own slept: a
request that is refused, at its first check or at a later one, is refused for a cycle or for the
interrupt of its session. Then none of the steps of its call has changed a page, what anybody holds,
or a wait of another transaction; the transaction waits for nothing any more; a lock that it shared
before is shared still, unless it was released; and of all interrupts only the one that it was
refused for is used up. -/
theorem denials_leave_no_trace {actions : List LockAction}
    (sequential : empty.SequentialFrom actions) {ticket : Nat} {request : LockRequest}
    (due : (run actions).Due ticket request) {fault : Fault}
    (refused : ((run actions).acquire ticket request).2 = .refused fault) :
    (∀ before asked, Calls (actions ++ [.acquire ticket request]) ticket before asked →
      (run before).Traceless (run (before ++ [.acquire ticket asked])) request.transaction) ∧
    (run actions).Denies ((run actions).acquire ticket request).1 ticket request fault ∧
    ∀ before after, actions = before ++ after →
      (run before).lockMode? request.transaction request.page = some .shared →
      .release request.transaction request.page ∉ after →
      .releaseAll request.transaction ∉ after →
        ((run actions).acquire ticket request).1.lockMode? request.transaction request.page =
          some .shared := by
  have coherent : (run actions).Coherent := coherent_empty.sequentialFrom sequential
  have last := due.asked
  have notGranted : ((run actions).acquire ticket request).2 ≠ .granted := by
    rw [refused]
    exact fun impossible => by cases impossible
  refine ⟨?_, coherent.denies (grounded_run actions) due refused, ?_⟩
  · intro before asked calls
    obtain ⟨again, same, asleep⟩ := calls.asked last
    rw [run_append_singleton, perform, same]
    apply (grounded_run before).traceless again
    by_cases final : before = actions
    · rw [final]
      exact notGranted
    · rw [asleep final]
      exact fun impossible => by cases impossible
  · rintro before after rfl shares notReleased notEnded
    obtain ⟨kept, keeps, _⟩ := lockMode?_foldl_covers shares notReleased notEnded
    have holds : (run (before ++ after)).lockMode? request.transaction request.page =
        some kept := by
      rw [run, List.foldl_append]
      exact keeps
    have unmoved : ((run (before ++ after)).acquire ticket request).1.lockMode?
        request.transaction request.page = some kept := by
      rw [lockMode?, holders, (acquire_withholds last notGranted).pages]
      exact holds
    cases kept with
    | shared => exact unmoved
    | exclusive =>
        -- Whoever has the page to itself has nobody in its way.
        obtain ⟨⟨holder, different, mode, others, _⟩, _⟩ := acquire_refused last refused
        exact absurd ((isExclusive_run _ _).eq_of_modeOf? holds others) different

/-- Two transactions share a page, and the second sleeps for it until the first lets go. By then a
third shares it too, and sleeps for a page of the second, which is refused and shares the first page
still. -/
theorem denials_leave_no_trace_upgrade :
    let first : PageId := ⟨⟨0⟩, 1⟩
    let second : PageId := ⟨⟨0⟩, 2⟩
    let request : LockRequest := ⟨⟨2⟩, first, .exclusive⟩
    let earlier : List LockAction :=
      [.acquire 0 ⟨⟨1⟩, first, .shared⟩, .acquire 1 ⟨⟨2⟩, first, .shared⟩,
        .acquire 2 ⟨⟨2⟩, second, .exclusive⟩]
    let later : List LockAction :=
      [.acquire 4 ⟨⟨3⟩, first, .shared⟩, .acquire 5 ⟨⟨3⟩, second, .shared⟩,
        .release ⟨1⟩ first]
    let actions := earlier ++ .acquire 3 request :: later
    empty.SequentialFrom actions ∧ (run actions).Due 3 request ∧
      ((run actions).acquire 3 request).2 = .refused (.deadlock ⟨2⟩ first) ∧
      Calls (actions ++ [.acquire 3 request]) 3 earlier request ∧
      (run earlier).Traceless (run (earlier ++ [.acquire 3 request])) ⟨2⟩ ∧
      (run earlier).lockMode? ⟨2⟩ first = some .shared ∧
        ((run actions).acquire 3 request).1.lockMode? ⟨2⟩ first = some .shared := by
  intro first second request earlier later actions
  have sequential : empty.SequentialFrom actions := by decide +kernel
  have woken : (run actions).sleepers[3]? =
      some ⟨request, (run actions).sessionId ⟨2⟩, true⟩ := by decide +kernel
  have due : (run actions).Due 3 request := Or.inr ⟨_, woken, rfl, rfl⟩
  have refused : ((run actions).acquire 3 request).2 = .refused (.deadlock ⟨2⟩ first) := by
    decide +kernel
  have shares : (run earlier).lockMode? ⟨2⟩ first = some .shared := by decide +kernel
  have occupied : ∀ middle ∈ later.inits,
      (run (earlier ++ .acquire 3 request :: middle)).sleepers[3]? ≠ none := by decide +kernel
  have calls : Calls (actions ++ [.acquire 3 request]) 3 earlier request := by
    refine ⟨later ++ [.acquire 3 request], by simp [actions], ?_⟩
    intro middle rest split notLast
    apply occupied
    rw [List.mem_inits]
    obtain ⟨initial, final, rfl⟩ := (List.eq_nil_or_concat' rest).resolve_left notLast
    rw [← List.append_assoc] at split
    exact ⟨initial, (List.append_inj' split rfl).1.symm⟩
  obtain ⟨steps, _, kept⟩ := denials_leave_no_trace sequential due refused
  exact ⟨sequential, due, refused, calls, steps earlier request calls, shares,
    kept earlier (.acquire 3 request :: later) rfl shares (by decide) (by decide)⟩

end RowStore.LockTable
