import RowStore.Proofs.Lock.Bookkeeping
import RowStore.Proofs.Lock.Deadlock

/-!
Interrupts: a transaction's interrupt is pending from the moment it comes until a request of the
transaction is refused for it, or the transaction ends. Nothing else uses it up, and as long as it is
pending no request of the transaction falls asleep.
-/

set_option autoImplicit false

namespace RowStore.LockTable

/-- The next request of the transaction that would have to wait is to be refused. -/
def pending (table : LockTable) (transaction : TransactionId) : Bool :=
  (table.current transaction).interrupted

/-- The action checks a request, which is refused for the transaction's interrupt. -/
def Fires (table : LockTable) (transaction : TransactionId) : LockAction → Prop
  | .acquire ticket request =>
      (table.acquire ticket request).2 = .refused (.interrupted transaction)
  | _ => False

/-! ### What one action does to an interrupt -/

section

variable {table : LockTable}

/-- What a check does to the interrupts: it may only use up that of the request's transaction, and
only by refusing the request for it; and no request falls asleep while that one is pending. -/
private structure Minds (table next : LockTable) (request : LockRequest) (verdict : Verdict) :
    Prop where
  pending : ∀ transaction, next.pending transaction = true ↔
    table.pending transaction = true ∧ verdict ≠ .refused (.interrupted transaction)
  fired : ∀ transaction, verdict = .refused (.interrupted transaction) →
    table.pending transaction = true
  opposed : (∃ holder, table.Opposes holder request) →
    table.pending request.transaction = true →
      verdict = .refused (.deadlock request.transaction request.page) ∨
        verdict = .refused (.interrupted request.transaction)
  unopposed : (¬∃ holder, table.Opposes holder request) → verdict = .granted

private theorem pending_of_insert (table next : LockTable) (ended : next.ended = table.ended)
    {owner : TransactionId} {session : Session}
    (sessions : next.sessions = table.sessions.insert (table.sessionId owner) session)
    (same : session.interrupted = (table.current owner).interrupted)
    (transaction : TransactionId) : next.pending transaction = table.pending transaction := by
  unfold pending
  rw [table.current_of_insert next ended sessions]
  split
  · rename_i own
    rw [same, own]
  · rfl

private theorem minds_check (table : LockTable) (ticket : Nat) (request : LockRequest) :
    table.Minds (table.check ticket request (table.sessionId request.transaction)).1 request
      (table.check ticket request (table.sessionId request.transaction)).2 := by
  have opposed_iff : (∃ holder, table.Opposes holder request) ↔
      (table.holders request.page).opposing request.transaction request.mode ≠ [] := by
    simp only [opposes_iff_mem_opposing, ne_eq, List.eq_nil_iff_forall_not_mem, not_forall,
      not_not]
  rcases table.check_cases ticket request (table.sessionId request.transaction) with
    ⟨unopposed, result⟩ | ⟨opposed, graph, accepted, _, verdicts⟩
  · rw [result]
    refine ⟨?_, ?_, ?_, fun _ => rfl⟩
    · intro transaction
      rw [table.pending_of_insert (table.grant request _) rfl rfl rfl]
      simp
    · intro transaction impossible
      cases impossible
    · intro opposes
      exact absurd unopposed (opposed_iff.mp opposes)
  · have blocked := opposed_iff.mpr opposed
    rcases verdicts with ⟨_, result⟩ | ⟨_, marked, result⟩ | ⟨_, unmarked, result⟩
    · rw [result]
      refine ⟨?_, ?_, fun _ _ => Or.inl rfl, fun none => absurd blocked none⟩
      · intro transaction
        simp [pending, current, session, sessionId]
      · intro transaction impossible
        cases impossible
    · rw [result]
      refine ⟨?_, ?_, fun _ _ => Or.inr rfl, fun none => absurd blocked none⟩
      · intro transaction
        have rewritten (next : LockTable) (ended : next.ended = table.ended)
            (sessions : next.sessions = table.sessions.insert
              (table.sessionId request.transaction)
              (table.current request.transaction).consumeInterrupt) :
            next.pending transaction = true ↔
              table.pending transaction = true ∧ request.transaction ≠ transaction := by
          unfold pending
          rw [table.current_of_insert next ended sessions]
          by_cases own : request.transaction = transaction
          · simp [own, Session.consumeInterrupt]
          · simp [own]
        refine (rewritten _ (by rfl) (by rfl)).trans ?_
        simp
      · intro transaction fired
        have own : request.transaction = transaction := by simpa using fired
        rw [← own]
        exact marked
    · rw [result]
      refine ⟨?_, ?_, ?_, fun none => absurd blocked none⟩
      · intro transaction
        refine (Bool.eq_iff_iff.mp
          (table.pending_of_insert _ (by rfl) (by rfl) (by rfl) transaction)).trans ?_
        simp
      · intro transaction impossible
        cases impossible
      · intro _ marked
        rw [pending, current, unmarked] at marked
        cases marked

/-- The request is checked in a table that differs from this one in nothing that matters to it. -/
private theorem Minds.of_prepared {prepared next : LockTable} {request : LockRequest}
    {verdict : Verdict} (minds : prepared.Minds next request verdict)
    (holders : ∀ page, prepared.holders page = table.holders page)
    (same : ∀ transaction, prepared.pending transaction = table.pending transaction) :
    table.Minds next request verdict := by
  have opposes_iff : (∃ holder, prepared.Opposes holder request) ↔
      ∃ holder, table.Opposes holder request := by
    unfold Opposes lockMode?
    simp only [holders]
  constructor
  · intro transaction
    rw [← same]
    exact minds.pending transaction
  · intro transaction
    rw [← same]
    exact minds.fired transaction
  · rw [← same, ← opposes_iff]
    exact minds.opposed
  · rw [← opposes_iff]
    exact minds.unopposed

private theorem minds_acquire (accounted : table.Accounted) {ticket : Nat} {request : LockRequest}
    (due : table.Due ticket request) :
    table.Minds (table.acquire ticket request).1 request (table.acquire ticket request).2 := by
  rcases due with ⟨unused, _⟩ | ⟨sleeper, found, woken, rfl⟩
  · have checks : table.acquire ticket request = (table.enroll request).check ticket request
        (table.sessionId request.transaction) := by
      unfold acquire
      rw [unused]
    rw [checks]
    apply ((table.enroll request).minds_check ticket request).of_prepared
    · exact table.holders_enroll request
    · intro transaction
      exact congrArg Session.interrupted
        (table.session_enroll request (table.sessionId transaction))
  · have checks : table.acquire ticket sleeper.request =
        (table.rouse ticket sleeper).check ticket sleeper.request
          (table.sessionId sleeper.request.transaction) := by
      unfold acquire
      rw [found, ← accounted.session ticket sleeper found]
      exact if_pos woken
    rw [checks]
    apply ((table.rouse ticket sleeper).minds_check ticket sleeper.request).of_prepared
    · exact (table.prepares_rouse ticket sleeper).holders
    · exact table.pending_of_insert (table.rouse ticket sleeper) rfl
        (accounted.sessions_rouse found) rfl

theorem acquire_due {ticket : Nat} {request : LockRequest}
    (orderly : table.Orderly (.acquire ticket request)) :
    (∃ asked, table.Due ticket asked ∧ table.acquire ticket request = table.acquire ticket asked) ∨
      table.acquire ticket request = (table, .asleep) := by
  rcases table.acquire_cases ticket request with ⟨unused, _⟩ | ⟨sleeper, found, woken, _⟩ |
    ⟨_, _, _, same⟩
  · exact Or.inl ⟨request, Or.inl ⟨unused, orderly unused⟩, rfl⟩
  · refine Or.inl ⟨sleeper.request, Or.inr ⟨sleeper, found, woken, rfl⟩, ?_⟩
    unfold acquire
    rw [found]
  · exact Or.inr same

/-- The action leaves the transaction without a pending interrupt. -/
def Spends (table : LockTable) (transaction : TransactionId) (action : LockAction) : Prop :=
  action = .releaseAll transaction ∨ table.Fires transaction action

theorem pending_perform (accounted : table.Accounted) {action : LockAction}
    (orderly : table.Orderly action) (transaction : TransactionId) :
    (table.perform action).pending transaction = true ↔
      action = .interrupt transaction ∨
        (table.pending transaction = true ∧ ¬table.Spends transaction action) := by
  unfold Spends
  cases action with
  | acquire ticket request =>
      simp only [reduceCtorEq, false_or, Fires, perform]
      rcases acquire_due orderly with ⟨asked, due, same⟩ | same
      · rw [same]
        exact (minds_acquire accounted due).pending transaction
      · rw [same]
        simp
  | release releaser page =>
      obtain ⟨held, same⟩ := table.current_release releaser page transaction
      simp [pending, perform, same, Fires]
  | releaseAll ender =>
      obtain ⟨held, released⟩ :=
        table.current_foldl_release ender (table.heldPages ender) transaction
      simp only [pending, perform, current_releaseAll accounted, released, Fires]
      by_cases same : transaction = ender
      · simp [same, Session.new]
      · simp [same, Ne.symm same]
  | interrupt interrupted =>
      simp only [pending, perform, (table.interrupt_cases interrupted).1, Fires]
      by_cases same : interrupted = transaction
      · simp [same, Session.interrupt]
      · simp [same]

theorem Fires.pending (accounted : table.Accounted) {action : LockAction}
    (orderly : table.Orderly action) {transaction : TransactionId}
    (fires : table.Fires transaction action) : table.pending transaction = true := by
  cases action with
  | acquire ticket request =>
      have verdict : (table.acquire ticket request).2 = .refused (.interrupted transaction) :=
        fires
      rcases acquire_due orderly with ⟨asked, due, same⟩ | same
      · rw [same] at verdict
        exact (minds_acquire accounted due).fired transaction verdict
      · rw [same] at verdict
        cases verdict
  | release _ _ => exact fires.elim
  | releaseAll _ => exact fires.elim
  | interrupt _ => exact fires.elim

end

/-! ### Runs -/

theorem OrderlyFrom.left {table : LockTable} {before after : List LockAction}
    (orderly : table.OrderlyFrom (before ++ after)) : table.OrderlyFrom before := by
  induction before generalizing table with
  | nil => trivial
  | cons action rest ih => exact ⟨orderly.1, ih orderly.2⟩

theorem OrderlyFrom.right {table : LockTable} {before after : List LockAction}
    (orderly : table.OrderlyFrom (before ++ after)) :
    (before.foldl perform table).OrderlyFrom after := by
  induction before generalizing table with
  | nil => exact orderly
  | cons action rest ih => exact ih orderly.2

/-- The transaction was interrupted after the earlier actions, and none of the later ones left it
without a pending interrupt. -/
def Unspent (transaction : TransactionId) (before after : List LockAction) : Prop :=
  ∀ middle action rest, after = middle ++ action :: rest →
    ¬(run (before ++ .interrupt transaction :: middle)).Spends transaction action

theorem unspent_append_singleton {transaction : TransactionId} {before after : List LockAction}
    {action : LockAction} :
    Unspent transaction before (after ++ [action]) ↔ Unspent transaction before after ∧
      ¬(run (before ++ .interrupt transaction :: after)).Spends transaction action := by
  constructor
  · intro unspent
    refine ⟨?_, unspent after action [] rfl⟩
    rintro middle earlier rest rfl
    exact unspent middle earlier (rest ++ [action]) (by simp)
  · rintro ⟨unspent, last⟩ middle other rest split
    rcases List.eq_nil_or_concat' rest with rfl | ⟨initial, final, rfl⟩
    · obtain ⟨rfl, same⟩ := List.append_inj' split rfl
      cases same
      exact last
    · rw [← List.cons_append, ← List.append_assoc] at split
      obtain ⟨rfl, _⟩ := List.append_inj' split rfl
      exact unspent middle other initial rfl

theorem pending_run_iff {actions : List LockAction} (orderly : empty.OrderlyFrom actions)
    (transaction : TransactionId) :
    (run actions).pending transaction = true ↔
      ∃ before after, actions = before ++ .interrupt transaction :: after ∧
        Unspent transaction before after := by
  induction actions using List.reverseRecOn with
  | nil => simp [run, pending, current, session, empty, Session.new]
  | append_singleton actions action ih =>
      obtain ⟨before, allowed⟩ := orderlyFrom_append.mp orderly
      rw [run_append_singleton, pending_perform (sound_run before).accounted allowed, ih before]
      constructor
      · rintro (rfl | ⟨⟨first, later, rfl, unspent⟩, kept⟩)
        · refine ⟨actions, [], rfl, ?_⟩
          intro middle other rest impossible
          simp at impossible
        · exact ⟨first, later ++ [action], by simp,
            unspent_append_singleton.mpr ⟨unspent, kept⟩⟩
      · rintro ⟨first, later, split, unspent⟩
        rcases List.eq_nil_or_concat' later with rfl | ⟨initial, final, rfl⟩
        · obtain ⟨_, same⟩ := List.append_inj' split rfl
          cases same
          exact Or.inl rfl
        · rw [← List.cons_append, ← List.append_assoc] at split
          obtain ⟨rfl, same⟩ := List.append_inj' split rfl
          cases same
          obtain ⟨earlier, kept⟩ := unspent_append_singleton.mp unspent
          exact Or.inr ⟨⟨first, initial, rfl, earlier⟩, kept⟩

theorem not_pending_of_fires {table : LockTable} (accounted : table.Accounted)
    {action : LockAction} (orderly : table.Orderly action) {transaction : TransactionId}
    (fires : table.Fires transaction action) :
    (table.perform action).pending transaction = false := by
  rw [← Bool.not_eq_true, pending_perform accounted orderly]
  rintro (rfl | ⟨_, kept⟩)
  · exact fires
  · exact kept (Or.inr fires)

theorem interrupt_mem_of_pending {table : LockTable} (accounted : table.Accounted)
    {actions : List LockAction} (orderly : table.OrderlyFrom actions)
    {transaction : TransactionId} (quiet : table.pending transaction = false)
    (later : (actions.foldl perform table).pending transaction = true) :
    .interrupt transaction ∈ actions := by
  induction actions generalizing table with
  | nil =>
      rw [List.foldl_nil, quiet] at later
      cases later
  | cons action rest ih =>
      cases still : (table.perform action).pending transaction with
      | false =>
          exact List.mem_cons_of_mem _
            (ih (accounted.perform orderly.1) orderly.2 still later)
      | true =>
          rcases (pending_perform accounted orderly.1 transaction).mp still with rfl | ⟨before, _⟩
          · exact List.mem_cons_self
          · rw [quiet] at before
            cases before

theorem interrupt_mem_between {actions before between rest : List LockAction}
    (orderly : empty.OrderlyFrom actions) {first second : LockAction}
    (split : actions = before ++ first :: (between ++ second :: rest))
    {transaction : TransactionId} (firstFires : (run before).Fires transaction first)
    (secondFires : (run (before ++ first :: between)).Fires transaction second) :
    .interrupt transaction ∈ between := by
  subst split
  have fromFirst := orderly.right
  have sound := sound_run orderly.left
  have cleared := not_pending_of_fires sound.accounted fromFirst.1 firstFires
  have resumed : run (before ++ first :: between) =
      between.foldl perform ((run before).perform first) := by
    simp [run]
  have soundLater : (run (before ++ first :: between)).Sound := by
    apply sound_run
    rw [← List.cons_append, ← List.append_assoc] at orderly
    exact orderly.left
  have allowed : (run (before ++ first :: between)).Orderly second := by
    rw [resumed]
    exact fromFirst.2.right.1
  have marked := secondFires.pending soundLater.accounted allowed
  rw [resumed] at marked
  exact interrupt_mem_of_pending (sound.accounted.perform fromFirst.1) fromFirst.2.left cleared
    marked

/-- Orderly runs lose no wake-up and no interrupt. If nobody is left to be checked anew, whoever
sleeps has somebody else's lock in its way and no interrupt pending. At any moment a transaction's
interrupt is pending just when it came and neither the transaction ended nor a request of it was
refused for it since. While it is pending, a request of the transaction that is checked is granted if
nobody is in its way, and else refused, for a deadlock or for the interrupt, which only the latter
uses up. Between two refusals for the interrupt the transaction was interrupted anew. -/
theorem no_lost_wakeups_or_interrupts {actions : List LockAction}
    (orderly : empty.OrderlyFrom actions) :
    ((run actions).wokenTickets = [] → ∀ request, (run actions).Blocked request →
      (∃ holder, (run actions).Opposes holder request) ∧
        (run actions).pending request.transaction = false) ∧
    (∀ transaction, (run actions).pending transaction = true ↔
      ∃ before after, actions = before ++ .interrupt transaction :: after ∧
        Unspent transaction before after) ∧
    (∀ ticket request, (run actions).Due ticket request →
      (run actions).pending request.transaction = true →
      ((¬∃ holder, (run actions).Opposes holder request) →
        ((run actions).acquire ticket request).2 = .granted ∧
          ((run actions).acquire ticket request).1.pending request.transaction = true) ∧
      ((∃ holder, (run actions).Opposes holder request) →
        (((run actions).acquire ticket request).2 =
            .refused (.deadlock request.transaction request.page) ∧
          ((run actions).acquire ticket request).1.pending request.transaction = true) ∨
        (((run actions).acquire ticket request).2 =
            .refused (.interrupted request.transaction) ∧
          ((run actions).acquire ticket request).1.pending request.transaction = false))) ∧
    ∀ transaction before first between second rest,
      actions = before ++ first :: (between ++ second :: rest) →
      (run before).Fires transaction first →
      (run (before ++ first :: between)).Fires transaction second →
        .interrupt transaction ∈ between := by
  have sound := sound_run orderly
  have attended := attended_run orderly
  refine ⟨?_, pending_run_iff orderly, ?_, ?_⟩
  · rintro quiet request ⟨ticket, sleeper, found, rfl⟩
    have asleep := woken_eq_false quiet found
    obtain ⟨holder, _, opposes⟩ := sound.exists_wait found asleep
    exact ⟨⟨holder, opposes⟩, attended.calm ticket sleeper found asleep⟩
  · intro ticket request due marked
    have minds := minds_acquire sound.accounted due
    have pending := minds.pending request.transaction
    constructor
    · intro free
      have granted := minds.unopposed free
      refine ⟨granted, pending.mpr ⟨marked, ?_⟩⟩
      rw [granted]
      intro impossible
      cases impossible
    · intro opposed
      rcases minds.opposed opposed marked with deadlock | interrupted
      · refine Or.inl ⟨deadlock, pending.mpr ⟨marked, ?_⟩⟩
        rw [deadlock]
        intro impossible
        cases impossible
      · refine Or.inr ⟨interrupted, ?_⟩
        rw [← Bool.not_eq_true, pending]
        exact fun both => both.2 interrupted
  · intro transaction before first between second rest split firstFires secondFires
    exact interrupt_mem_between orderly split firstFires secondFires

/-- The second transaction is interrupted while it is awake. What it asks for is granted, then
refused for a deadlock, and both leave the interrupt to the request that would have to wait. -/
theorem no_lost_wakeups_or_interrupts_kept :
    let first : PageId := ⟨⟨0⟩, 1⟩
    let second : PageId := ⟨⟨0⟩, 2⟩
    let third : PageId := ⟨⟨0⟩, 3⟩
    let request : LockRequest := ⟨⟨2⟩, third, .shared⟩
    let actions : List LockAction :=
      [.acquire 0 ⟨⟨1⟩, first, .exclusive⟩, .acquire 1 ⟨⟨3⟩, third, .exclusive⟩, .interrupt ⟨2⟩,
        .acquire 2 ⟨⟨2⟩, second, .exclusive⟩, .acquire 3 ⟨⟨1⟩, second, .shared⟩,
        .acquire 4 ⟨⟨2⟩, first, .shared⟩]
    empty.OrderlyFrom actions ∧ (run actions).Due 5 request ∧
      (run actions).pending ⟨2⟩ = true ∧ (∃ holder, (run actions).Opposes holder request) ∧
        (((run actions).acquire 5 request).2 = .refused (.deadlock ⟨2⟩ third) ∧
            ((run actions).acquire 5 request).1.pending ⟨2⟩ = true ∨
          ((run actions).acquire 5 request).2 = .refused (.interrupted ⟨2⟩) ∧
            ((run actions).acquire 5 request).1.pending ⟨2⟩ = false) := by
  intro first second third request actions
  have orderly : empty.OrderlyFrom actions := by decide +kernel
  have due : (run actions).Due 5 request := Or.inl (by decide +kernel)
  have marked : (run actions).pending ⟨2⟩ = true := by decide +kernel
  have opposed : ∃ holder, (run actions).Opposes holder request := by
    have holds : (run actions).lockMode? ⟨3⟩ third = some .exclusive := by decide +kernel
    exact ⟨⟨3⟩, by decide, .exclusive, holds, rfl⟩
  exact ⟨orderly, due, marked, opposed,
    ((no_lost_wakeups_or_interrupts orderly).2.2.1 5 request due marked).2 opposed⟩

end RowStore.LockTable
