import RowStore.Proofs.Lock.Bookkeeping
import RowStore.Proofs.WaitGraph.Standing

/-!
Footing: what holds of a lock table however its requests come, be they several of one transaction at
a time, and whoever is released or interrupted meanwhile. Sessions belong to those who made their
requests, what a transaction's session lists is held, and every recorded wait is one of a request
that sleeps, behind a holder of its page.
-/

set_option autoImplicit false

namespace RowStore.LockTable

structure Seated (table : LockTable) : Prop where
  owned : ∀ (ticket : Nat) (sleeper : Sleeper), table.sleepers[ticket]? = some sleeper →
    sleeper.session.owner = sleeper.request.transaction ∧ sleeper.session ∈ table.sessions
  begun : ∀ id : SessionId, id ∈ table.sessions → id.serial ≤ table.ended.getD id.owner 0
  waiting : ∀ id, (table.session id).waitingOn ≠ none →
    ∃ (ticket : Nat) (sleeper : Sleeper), table.sleepers[ticket]? = some sleeper ∧
      sleeper.session = id
  held : ∀ transaction page, page ∈ (table.current transaction).held →
    table.lockMode? transaction page ≠ none

def Founded (table : LockTable) (wait : Wait) : Prop :=
  table.lockMode? wait.holder wait.page ≠ none ∧
    ∃ request, table.Blocked request ∧ request.transaction = wait.waiter ∧
      request.page = wait.page

structure Grounded (table : LockTable) : Prop extends table.Seated where
  consistent : table.graph.Consistent
  founded : ∀ wait ∈ table.graph.waits, table.Founded wait

theorem grounded_empty : empty.Grounded := by
  refine ⟨⟨?_, ?_, ?_, ?_⟩, WaitGraph.consistent_empty, ?_⟩
  · intro ticket sleeper found
    simp [empty] at found
  · intro id present
    simp [empty] at present
  · intro id waits
    simp [empty, session, Session.new] at waits
  · intro transaction page member
    simp [empty, current, session, Session.new] at member
  · intro wait present
    simp [empty, WaitGraph.empty] at present

section

variable {table next : LockTable}

/-! ### Checks -/

/-- The request is about to be checked: its session has begun, and the waits that are left of it are
of its last check. -/
private structure Offered (table : LockTable) (request : LockRequest) (session : SessionId) : Prop
    extends table.Seated where
  consistent : table.graph.Consistent
  founded : ∀ wait ∈ table.graph.waits, table.Founded wait ∨
    (wait.waiter = request.transaction ∧ wait.page = request.page ∧
      table.lockMode? wait.holder wait.page ≠ none)
  mine : session.owner = request.transaction
  entered : session ∈ table.sessions

private theorem Seated.of_insert (seated : table.Seated) {id : SessionId} {session : Session}
    (serial : id.serial ≤ table.ended.getD id.owner 0) (ended : next.ended = table.ended)
    (sessions : next.sessions = table.sessions.insert id session)
    (owned : ∀ (ticket : Nat) (sleeper : Sleeper), next.sleepers[ticket]? = some sleeper →
      sleeper.session.owner = sleeper.request.transaction ∧
        (sleeper.session = id ∨ sleeper.session ∈ table.sessions))
    (stays : ∀ (ticket : Nat) (sleeper : Sleeper), table.sleepers[ticket]? = some sleeper →
      sleeper.session ≠ id → ∃ later : Sleeper, next.sleepers[ticket]? = some later ∧
        later.session = sleeper.session)
    (waiting : session.waitingOn ≠ none → ∃ (ticket : Nat) (sleeper : Sleeper),
      next.sleepers[ticket]? = some sleeper ∧ sleeper.session = id)
    (modes : ∀ transaction page, table.lockMode? transaction page ≠ none →
      next.lockMode? transaction page ≠ none)
    (held : ∀ page ∈ session.held, page ∈ (table.session id).held ∨
      next.lockMode? id.owner page ≠ none) : next.Seated := by
  have noted (other : SessionId) : next.session other =
      if id = other then session else table.session other := by
    rw [LockTable.session, sessions, session_insert]
  refine ⟨?_, ?_, ?_, ?_⟩
  · intro ticket sleeper found
    obtain ⟨own, same | before⟩ := owned ticket sleeper found
    · refine ⟨own, ?_⟩
      rw [sessions, same]
      exact Std.ExtTreeMap.mem_insert_self
    · refine ⟨own, ?_⟩
      rw [sessions]
      exact Std.ExtTreeMap.mem_insert.mpr (Or.inr before)
  · intro other present
    rw [ended]
    rw [sessions, Std.ExtTreeMap.mem_insert, Std.LawfulEqCmp.compare_eq_iff_eq] at present
    rcases present with rfl | before
    · exact serial
    · exact seated.begun other before
  · intro other waits
    rw [noted] at waits
    by_cases same : id = other
    · rw [if_pos same] at waits
      subst other
      exact waiting waits
    · rw [if_neg same] at waits
      obtain ⟨ticket, sleeper, found, its⟩ := seated.waiting other waits
      obtain ⟨later, foundLater, kept⟩ :=
        stays ticket sleeper found (fun own => same (own.symm.trans its))
      exact ⟨ticket, later, foundLater, kept.trans its⟩
  · intro transaction page member
    have sameId : next.sessionId transaction = table.sessionId transaction := by
      simp only [sessionId, ended]
    rw [current, sameId, noted] at member
    split at member
    · rename_i same
      rcases held page member with before | holds
      · rw [same] at before
        exact modes transaction page (seated.held transaction page before)
      · rw [same] at holds
        exact holds
    · exact modes transaction page (seated.held transaction page member)

private theorem Offered.grant {request : LockRequest} {session : SessionId}
    (offered : table.Offered request session)
    (unopposed : (table.holders request.page).opposing request.transaction request.mode = []) :
    (table.grant request session).Grounded := by
  have modes (transaction : TransactionId) (page : PageId)
      (holds : table.lockMode? transaction page ≠ none) :
      (table.grant request session).lockMode? transaction page ≠ none := by
    obtain ⟨held, holds⟩ := Option.ne_none_iff_exists'.mp holds
    unfold lockMode? at holds ⊢
    rw [holders_grant]
    split
    · rename_i same
      rw [same] at unopposed
      obtain ⟨kept, keeps, _⟩ := Holders.modeOf?_grant_covers unopposed holds
      exact Option.ne_none_iff_exists'.mpr ⟨kept, keeps⟩
    · exact Option.ne_none_iff_exists'.mpr ⟨held, holds⟩
  have granted : (table.grant request session).lockMode? request.transaction request.page ≠
      none := by
    obtain ⟨held, holds, _⟩ := Holders.modeOf?_grant_self
      (table.holders request.page) request.transaction request.mode
    rw [lockMode?, holders_grant, if_pos rfl, holds]
    exact Option.some_ne_none held
  refine ⟨?_, offered.consistent.resolve _ _, ?_⟩
  · refine offered.toSeated.of_insert (offered.begun session offered.entered) rfl rfl ?_ ?_ ?_
      ?_ ?_
    · intro ticket sleeper found
      exact ⟨(offered.owned ticket sleeper found).1, Or.inr (offered.owned ticket sleeper found).2⟩
    · intro ticket sleeper found _
      exact ⟨sleeper, found, rfl⟩
    · exact offered.waiting session
    · exact modes
    · intro page member
      simp only [Session.hold, Std.ExtTreeSet.mem_insert,
        Std.LawfulEqCmp.compare_eq_iff_eq] at member
      rcases member with rfl | before
      · right
        rw [offered.mine]
        exact granted
      · exact Or.inl before
  · intro wait present
    obtain ⟨old, different⟩ := WaitGraph.mem_waits_resolve.mp present
    rcases offered.founded wait old with ⟨holds, asleep⟩ | ⟨own, page, _⟩
    · exact ⟨modes _ _ holds, asleep⟩
    · exact absurd ⟨own, page⟩ different

/-- A request that is refused leaves the table as it was, but for its waits and its session. -/
private theorem Offered.refuse {request : LockRequest} {session : SessionId}
    (offered : table.Offered request session) {graph : WaitGraph} (consistent : graph.Consistent)
    (waits : ∀ wait ∈ graph.waits, wait ∈ table.graph.waits ∨
      (wait.waiter = request.transaction ∧ wait.page = request.page))
    (seated : next.Seated) (pages : next.pages = table.pages)
    (sleepers : next.sleepers = table.sleepers)
    (resolved : next.graph = graph.resolve request.transaction request.page) : next.Grounded := by
  refine ⟨seated, ?_, ?_⟩
  · rw [resolved]
    exact consistent.resolve _ _
  · intro wait present
    rw [resolved] at present
    obtain ⟨old, different⟩ := WaitGraph.mem_waits_resolve.mp present
    rcases waits wait old with before | own
    · rcases offered.founded wait before with ⟨holds, asleep⟩ | ⟨own, page, _⟩
      · refine ⟨?_, ?_⟩
        · unfold lockMode? holders at holds ⊢
          rw [pages]
          exact holds
        · unfold Blocked at asleep ⊢
          rw [sleepers]
          exact asleep
      · exact absurd ⟨own, page⟩ different
    · exact absurd own different

private theorem Offered.asleep {ticket : Nat} {request : LockRequest} {session : SessionId}
    (offered : table.Offered request session) (unused : table.sleepers[ticket]? = none)
    {graph : WaitGraph}
    (added : table.graph.addWaits request.transaction request.page
      ((table.holders request.page).opposing request.transaction request.mode) = (graph, true)) :
    ({ table with
        graph := graph
        sessions := table.sessions.insert session ((table.session session).wait request.page)
        sleepers := table.sleepers.insert ticket ⟨request, session, false⟩ } :
      LockTable).Grounded := by
  obtain ⟨consistent, waits⟩ := offered.consistent.addWaits_true added
  have stays {other : Nat} {sleeper : Sleeper} (found : table.sleepers[other]? = some sleeper) :
      (table.sleepers.insert ticket ⟨request, session, false⟩)[other]? = some sleeper := by
    have different : ticket ≠ other := by
      rintro rfl
      rw [unused] at found
      cases found
    simp only [Std.ExtTreeMap.getElem?_insert, Std.LawfulEqCmp.compare_eq_iff_eq,
      if_neg different]
    exact found
  have entered : (table.sleepers.insert ticket ⟨request, session, false⟩)[ticket]? =
      some ⟨request, session, false⟩ :=
    Std.ExtTreeMap.getElem?_insert_self
  refine ⟨?_, consistent, ?_⟩
  · refine offered.toSeated.of_insert (offered.begun session offered.entered) rfl rfl ?_ ?_ ?_
      ?_ ?_
    · intro other sleeper found
      simp only [Std.ExtTreeMap.getElem?_insert, Std.LawfulEqCmp.compare_eq_iff_eq] at found
      split at found
      · cases found
        exact ⟨offered.mine, Or.inl rfl⟩
      · obtain ⟨own, present⟩ := offered.owned other sleeper found
        exact ⟨own, Or.inr present⟩
    · intro other sleeper found _
      exact ⟨sleeper, stays found, rfl⟩
    · intro _
      exact ⟨ticket, _, entered, rfl⟩
    · exact fun _ _ holds => holds
    · exact fun _ member => Or.inl member
  · intro wait present
    have own {holder : TransactionId} (holds : table.lockMode? holder request.page ≠ none)
        (holderOf : wait.holder = holder) (waiter : wait.waiter = request.transaction)
        (page : wait.page = request.page) :
        table.lockMode? wait.holder wait.page ≠ none ∧ ∃ asked : LockRequest,
          (∃ (other : Nat) (sleeper : Sleeper),
            (table.sleepers.insert ticket ⟨request, session, false⟩)[other]? = some sleeper ∧
              sleeper.request = asked) ∧
            asked.transaction = wait.waiter ∧ asked.page = wait.page := by
      rw [holderOf, page]
      exact ⟨holds, request, ⟨ticket, _, entered, rfl⟩, waiter.symm, rfl⟩
    rcases (waits wait).mp present with old | ⟨waiter, page, member, _⟩
    · rcases offered.founded wait old with ⟨holds, asked, ⟨other, sleeper, found, same⟩, its⟩ |
        ⟨waiter, page, holds⟩
      · exact ⟨holds, asked, ⟨other, sleeper, stays found, same⟩, its⟩
      · rw [page] at holds
        exact own holds rfl waiter page
    · obtain ⟨_, held, holds, _⟩ := opposes_iff_mem_opposing.mpr member
      refine own ?_ rfl waiter page
      rw [holds]
      exact Option.some_ne_none held

private theorem Offered.check {ticket : Nat} {request : LockRequest} {session : SessionId}
    (offered : table.Offered request session) (unused : table.sleepers[ticket]? = none) :
    (table.check ticket request session).1.Grounded := by
  rcases table.check_cases ticket request session with
    ⟨unopposed, result⟩ | ⟨_, graph, accepted, added, verdicts⟩
  · rw [result]
    exact offered.grant unopposed
  · rcases verdicts with ⟨rfl, result⟩ | ⟨rfl, _, result⟩ | ⟨rfl, _, result⟩
    · obtain ⟨consistent, same⟩ := offered.consistent.addWaits_false added
      rw [result]
      refine offered.refuse consistent ?_ ?_ rfl rfl rfl
      · intro wait present
        rw [same] at present
        exact Or.inl present
      · exact ⟨offered.owned, offered.begun, offered.waiting, offered.held⟩
    · obtain ⟨consistent, waits⟩ := offered.consistent.addWaits_true added
      rw [result]
      refine offered.refuse consistent ?_ ?_ rfl rfl rfl
      · intro wait present
        rcases (waits wait).mp present with old | ⟨waiter, page, _⟩
        · exact Or.inl old
        · exact Or.inr ⟨waiter, page⟩
      · refine offered.toSeated.of_insert (offered.begun session offered.entered) rfl rfl ?_ ?_ ?_
          ?_ ?_
        · intro other sleeper found
          exact ⟨(offered.owned other sleeper found).1,
            Or.inr (offered.owned other sleeper found).2⟩
        · intro other sleeper found _
          exact ⟨sleeper, found, rfl⟩
        · intro waits
          exact absurd rfl waits
        · exact fun _ _ holds => holds
        · exact fun _ member => Or.inl member
    · rw [result]
      exact offered.asleep unused added

private theorem Grounded.enrolled (grounded : table.Grounded) (request : LockRequest) :
    (table.enroll request).Offered request (table.sessionId request.transaction) := by
  have modes (transaction : TransactionId) (page : PageId) :
      (table.enroll request).lockMode? transaction page = table.lockMode? transaction page := by
    rw [lockMode?, table.holders_enroll request page, lockMode?]
  refine ⟨⟨?_, ?_, ?_, ?_⟩, grounded.consistent, ?_, rfl, ?_⟩
  · intro ticket sleeper found
    obtain ⟨own, present⟩ := grounded.owned ticket sleeper found
    exact ⟨own, Std.ExtTreeMap.mem_insertIfNew.mpr (Or.inr present)⟩
  · intro id present
    rcases Std.ExtTreeMap.mem_insertIfNew.mp present with same | before
    · rw [← Std.LawfulEqCmp.compare_eq_iff_eq.mp same]
      exact Nat.le_refl _
    · exact grounded.begun id before
  · intro id waits
    rw [table.session_enroll request] at waits
    exact grounded.waiting id waits
  · intro transaction page member
    rw [current, table.session_enroll request] at member
    rw [modes]
    exact grounded.held transaction page member
  · intro wait present
    left
    unfold Founded
    rw [modes]
    exact grounded.founded wait present
  · exact Std.ExtTreeMap.mem_insertIfNew_self

private theorem Grounded.roused (grounded : table.Grounded) {ticket : Nat} {sleeper : Sleeper}
    (found : table.sleepers[ticket]? = some sleeper) :
    (table.rouse ticket sleeper).Offered sleeper.request sleeper.session := by
  obtain ⟨own, begun⟩ := grounded.owned ticket sleeper found
  have left {other : Nat} {another : Sleeper}
      (foundOther : (table.sleepers.erase ticket)[other]? = some another) :
      table.sleepers[other]? = some another := by
    rw [Std.ExtTreeMap.getElem?_erase] at foundOther
    split at foundOther
    · cases foundOther
    · exact foundOther
  have stays {other : Nat} {another : Sleeper} (different : other ≠ ticket)
      (foundOther : table.sleepers[other]? = some another) :
      (table.sleepers.erase ticket)[other]? = some another := by
    rw [Std.ExtTreeMap.getElem?_erase, if_neg]
    · exact foundOther
    · rw [Std.LawfulEqCmp.compare_eq_iff_eq]
      exact Ne.symm different
  have distinct {other : Nat} {another : Sleeper}
      (foundOther : table.sleepers[other]? = some another) (apart : another ≠ sleeper) :
      other ≠ ticket := by
    rintro rfl
    rw [found] at foundOther
    exact apart (Option.some.inj foundOther).symm
  refine ⟨?_, grounded.consistent, ?_, own, Std.ExtTreeMap.mem_insert_self⟩
  · refine grounded.toSeated.of_insert (grounded.begun _ begun) rfl rfl ?_ ?_ ?_ ?_ ?_
    · intro other another foundOther
      obtain ⟨its, present⟩ := grounded.owned other another (left foundOther)
      exact ⟨its, Or.inr present⟩
    · intro other another foundOther apart
      refine ⟨another, stays (distinct foundOther ?_) foundOther, rfl⟩
      rintro rfl
      exact apart rfl
    · intro waits
      exact absurd rfl waits
    · exact fun _ _ holds => holds
    · exact fun _ member => Or.inl member
  · intro wait present
    obtain ⟨holds, asked, ⟨other, another, foundOther, rfl⟩, waiter, page⟩ :=
      grounded.founded wait present
    -- The waits of the sleeper itself lose their ground here, until the check renews or ends them.
    by_cases same : another = sleeper
    · subst same
      exact Or.inr ⟨waiter.symm, page.symm, holds⟩
    · exact Or.inl ⟨holds, another.request,
        ⟨other, another, stays (distinct foundOther same) foundOther, rfl⟩, waiter, page⟩

theorem Grounded.acquire (grounded : table.Grounded) (ticket : Nat) (request : LockRequest) :
    (table.acquire ticket request).1.Grounded := by
  rcases table.acquire_cases ticket request with ⟨unused, same⟩ | ⟨sleeper, found, _, same⟩ |
    ⟨_, _, _, same⟩
  · rw [same]
    exact (grounded.enrolled request).check unused
  · rw [same]
    exact (grounded.roused found).check Std.ExtTreeMap.getElem?_erase_self
  · rw [same]
    exact grounded

/-! ### Releases and interrupts -/

theorem Seated.wake (seated : table.Seated) (page : PageId) : (table.wake page).Seated := by
  refine ⟨?_, seated.begun, ?_, seated.held⟩
  · intro ticket sleeper found
    obtain ⟨before, foundBefore, request, session, _⟩ := sleeper_of_wake found
    rw [← request, ← session]
    exact seated.owned ticket before foundBefore
  · intro id waits
    obtain ⟨ticket, sleeper, found, its⟩ := seated.waiting id waits
    have woken := table.sleepers_wake page ticket
    rw [found] at woken
    refine ⟨ticket, _, woken, ?_⟩
    dsimp only
    split
    · exact its
    · exact its

theorem Grounded.wake (grounded : table.Grounded) (page : PageId) :
    (table.wake page).Grounded := by
  refine ⟨grounded.toSeated.wake page, grounded.consistent, ?_⟩
  intro wait present
  obtain ⟨holds, request, blocked, its⟩ := grounded.founded wait present
  exact ⟨holds, request, (table.blocked_wake page request).mpr blocked, its⟩

theorem Grounded.release (grounded : table.Grounded) (transaction : TransactionId)
    (page : PageId) : (table.release transaction page).Grounded := by
  by_cases untracked : table.pages[page]? = none
  · rw [release_untracked untracked]
    exact grounded
  · have woken (ticket : Nat) := sleepers_release untracked transaction ticket
    have roused := grounded.toSeated.wake page
    have noted (id : SessionId) := table.session_release transaction page id
    refine ⟨⟨?_, ?_, ?_, ?_⟩, ?_, ?_⟩
    · intro ticket sleeper found
      rw [woken] at found
      obtain ⟨own, present⟩ := roused.owned ticket sleeper found
      exact ⟨own, mem_sessions_release.mpr present⟩
    · intro id present
      rw [ended_release]
      exact grounded.begun id (mem_sessions_release.mp present)
    · intro id waits
      obtain ⟨held, same⟩ := noted id
      rw [same] at waits
      obtain ⟨ticket, sleeper, found, its⟩ := roused.waiting id waits
      exact ⟨ticket, sleeper, (woken ticket).trans found, its⟩
    · intro other onPage member
      have sameId : (table.release transaction page).sessionId other = table.sessionId other := by
        simp only [sessionId, ended_release]
      rw [current, sameId, mem_held_release untracked] at member
      rw [lockMode?_release, if_neg]
      · exact grounded.held other onPage member.1
      · rintro ⟨rfl, rfl⟩
        exact member.2 ⟨rfl, rfl⟩
    · rw [graph_release untracked]
      exact grounded.consistent.release transaction page
    · intro wait present
      rw [graph_release untracked, WaitGraph.mem_waits_release] at present
      obtain ⟨old, different⟩ := present
      obtain ⟨holds, request, blocked, its⟩ := grounded.founded wait old
      refine ⟨?_, request, ?_, its⟩
      · rw [lockMode?_release, if_neg different]
        exact holds
      · obtain ⟨ticket, sleeper, found, same⟩ := (table.blocked_wake page request).mpr blocked
        exact ⟨ticket, sleeper, (woken ticket).trans found, same⟩

theorem Grounded.foldl_release (grounded : table.Grounded) (transaction : TransactionId)
    (pages : List PageId) :
    (pages.foldl (fun current page => current.release transaction page) table).Grounded := by
  induction pages generalizing table with
  | nil => exact grounded
  | cons page rest ih => exact ih (grounded.release transaction page)

theorem Grounded.current_releaseAll_self (grounded : table.Grounded)
    (transaction : TransactionId) :
    (table.releaseAll transaction).current transaction = Session.new := by
  have released := grounded.foldl_release transaction (table.heldPages transaction)
  have fresh : (⟨transaction, table.ended.getD transaction 0 + 1⟩ : SessionId) ∉
      (table.releaseAll transaction).sessions := by
    intro present
    have bound := released.begun _ present
    rw [table.ended_foldl_release] at bound
    exact Nat.not_succ_le_self _ bound
  rw [current, sessionId_releaseAll, if_pos rfl, LockTable.session,
    Std.ExtTreeMap.getD_eq_fallback fresh]

theorem Grounded.releaseAll (grounded : table.Grounded) (transaction : TransactionId) :
    (table.releaseAll transaction).Grounded := by
  have released := grounded.foldl_release transaction (table.heldPages transaction)
  have ended := table.ended_foldl_release transaction (table.heldPages transaction)
  refine ⟨⟨released.owned, ?_, released.waiting, ?_⟩, released.consistent.remove transaction, ?_⟩
  · intro id present
    have bound := released.begun id present
    rw [ended] at bound
    simp only [LockTable.releaseAll, Std.ExtTreeMap.getD_insert, ended,
      Std.LawfulEqCmp.compare_eq_iff_eq]
    split
    · rename_i same
      rw [same]
      exact Nat.le_succ_of_le bound
    · exact bound
  · intro other page member
    by_cases same : other = transaction
    · subst other
      rw [grounded.current_releaseAll_self transaction] at member
      simp [Session.new] at member
    · apply released.held other page
      rw [current, sessionId_releaseAll, if_neg same] at member
      rw [current]
      simp only [sessionId, ended]
      exact member
  · intro wait present
    exact released.founded wait (WaitGraph.mem_waits_remove.mp present).1

theorem Grounded.interrupt (grounded : table.Grounded) (transaction : TransactionId) :
    (table.interrupt transaction).Grounded := by
  have marked : (table.setSession (table.sessionId transaction)
      (table.session (table.sessionId transaction)).interrupt).Grounded := by
    refine ⟨?_, grounded.consistent, grounded.founded⟩
    refine grounded.toSeated.of_insert (Nat.le_refl _) rfl rfl ?_ ?_ ?_ ?_ ?_
    · intro ticket sleeper found
      exact ⟨(grounded.owned ticket sleeper found).1,
        Or.inr (grounded.owned ticket sleeper found).2⟩
    · intro ticket sleeper found _
      exact ⟨sleeper, found, rfl⟩
    · exact grounded.waiting (table.sessionId transaction)
    · exact fun _ _ holds => holds
    · exact fun _ member => Or.inl member
  unfold LockTable.interrupt
  dsimp only
  split
  · exact marked.wake _
  · exact marked

theorem Grounded.perform (grounded : table.Grounded) (action : LockAction) :
    (table.perform action).Grounded := by
  cases action with
  | acquire ticket request => exact grounded.acquire ticket request
  | release transaction page => exact grounded.release transaction page
  | releaseAll transaction => exact grounded.releaseAll transaction
  | interrupt transaction => exact grounded.interrupt transaction

end

theorem grounded_run (actions : List LockAction) : (run actions).Grounded := by
  induction actions using List.reverseRecOn with
  | nil => exact grounded_empty
  | append_singleton earlier action ih =>
      rw [run_append_singleton]
      exact ih.perform action

end RowStore.LockTable
