import RowStore.Proofs.Lock.Run

/-!
Ownership: what a session notes as held is what its transaction holds. Holds are kept twice, with
the page and with the session; the two agree as long as no transaction ends while a request of its
own sleeps.
-/

set_option autoImplicit false

namespace RowStore.LockTable

/-- Requests sleep in the present session of their transaction, and the pages that a present session
holds are those that its transaction has. -/
structure Accounted (table : LockTable) : Prop where
  session : ∀ (ticket : Nat) (sleeper : Sleeper), table.sleepers[ticket]? = some sleeper →
    sleeper.session = table.sessionId sleeper.request.transaction
  held_iff : ∀ transaction page,
    page ∈ (table.session (table.sessionId transaction)).held ↔
      table.lockMode? transaction page ≠ none
  unbegun : ∀ id : SessionId, id ∈ table.sessions → id.serial ≤ table.ended.getD id.owner 0

theorem accounted_empty : empty.Accounted := by
  constructor
  · intro ticket sleeper found
    simp [empty] at found
  · intro transaction page
    simp [empty, session, sessionId, Session.new, lockMode?, holders]
  · intro id present
    simp [empty] at present

private theorem sessionId_eq {table next : LockTable} (same : next.ended = table.ended)
    (transaction : TransactionId) : next.sessionId transaction = table.sessionId transaction := by
  unfold sessionId
  rw [same]

private theorem Accounted.of_unmoved {table next : LockTable} (accounted : table.Accounted)
    (holders : ∀ page, next.holders page = table.holders page) (ended : next.ended = table.ended)
    (held : ∀ id, (next.session id).held = (table.session id).held)
    (begun : ∀ id, id ∈ next.sessions → id ∈ table.sessions ∨
      ∃ transaction, id = table.sessionId transaction)
    (sleepers : ∀ (ticket : Nat) (sleeper : Sleeper), next.sleepers[ticket]? = some sleeper →
      sleeper.session = table.sessionId sleeper.request.transaction) : next.Accounted := by
  constructor
  · intro ticket sleeper found
    rw [sessionId_eq ended]
    exact sleepers ticket sleeper found
  · intro transaction page
    rw [sessionId_eq ended, held, accounted.held_iff]
    unfold lockMode?
    rw [holders]
  · intro id present
    rw [ended]
    rcases begun id present with before | ⟨transaction, rfl⟩
    · exact accounted.unbegun id before
    · exact Nat.le_refl _

private theorem Accounted.prepared {table prepared : LockTable} {ticket : Nat}
    {transaction : TransactionId} (accounted : table.Accounted)
    (prepares : table.Prepares prepared ticket (table.sessionId transaction)) :
    prepared.Accounted := by
  apply accounted.of_unmoved prepares.holders prepares.ended prepares.held
  · intro id present
    rcases (prepares.begun id).mp present with same | before
    · exact Or.inr ⟨transaction, same⟩
    · exact Or.inl before
  · intro other sleeper found
    rw [prepares.sleepers] at found
    split at found
    · cases found
    · exact accounted.session other sleeper found

private theorem Accounted.grant {table : LockTable} (accounted : table.Accounted)
    {request : LockRequest}
    (unopposed : (table.holders request.page).opposing request.transaction request.mode = []) :
    (table.grant request (table.sessionId request.transaction)).Accounted := by
  constructor
  · exact accounted.session
  · intro transaction page
    have before := accounted.held_iff transaction page
    have sessionAt : (table.grant request (table.sessionId request.transaction)).session
        (table.sessionId transaction) =
          if table.sessionId request.transaction = table.sessionId transaction then
            (table.session (table.sessionId request.transaction)).hold request.page
          else table.session (table.sessionId transaction) := session_insert
    change page ∈ ((table.grant request (table.sessionId request.transaction)).session
      (table.sessionId transaction)).held ↔ _
    rw [sessionAt]
    simp only [lockMode?, holders_grant] at before ⊢
    by_cases mine : transaction = request.transaction
    · subst mine
      rw [if_pos rfl]
      simp only [Session.hold, Std.ExtTreeSet.mem_insert, Std.LawfulEqCmp.compare_eq_iff_eq]
      by_cases same : request.page = page
      · subst same
        obtain ⟨held, holds, _⟩ := Holders.modeOf?_grant_self (table.holders request.page)
          request.transaction request.mode
        simp [holds]
      · simp only [same, false_or, if_false]
        exact before
    · have different : table.sessionId request.transaction ≠ table.sessionId transaction :=
        fun same => mine (congrArg SessionId.owner same).symm
      rw [if_neg different, before]
      by_cases same : request.page = page
      · subst same
        rw [if_pos rfl, Holders.modeOf?_grant_of_ne unopposed mine]
      · rw [if_neg same]
  · intro id present
    simp only [LockTable.grant, Std.ExtTreeMap.mem_insert,
      Std.LawfulEqCmp.compare_eq_iff_eq] at present
    rcases present with rfl | before
    · exact Nat.le_refl _
    · exact accounted.unbegun id before

private theorem Accounted.check {table : LockTable} (accounted : table.Accounted) (ticket : Nat)
    (request : LockRequest) :
    (table.check ticket request (table.sessionId request.transaction)).1.Accounted := by
  -- A refused or sleeping request writes its session back without touching what it holds.
  have rewritten {next : LockTable} {session : Session} (pages : next.pages = table.pages)
      (ended : next.ended = table.ended)
      (sessions : next.sessions =
        table.sessions.insert (table.sessionId request.transaction) session)
      (held : session.held = (table.session (table.sessionId request.transaction)).held)
      (sleepers : ∀ (ticket : Nat) (sleeper : Sleeper), next.sleepers[ticket]? = some sleeper →
        sleeper.session = table.sessionId sleeper.request.transaction) : next.Accounted := by
    refine accounted.of_unmoved ?_ ended ?_ ?_ sleepers
    · intro page
      unfold holders
      rw [pages]
    · intro id
      rw [LockTable.session, sessions, session_insert]
      split
      · rename_i same
        rw [held, same]
      · rfl
    · intro id present
      rw [sessions, Std.ExtTreeMap.mem_insert, Std.LawfulEqCmp.compare_eq_iff_eq] at present
      rcases present with same | before
      · exact Or.inr ⟨request.transaction, same.symm⟩
      · exact Or.inl before
  rcases table.check_cases ticket request (table.sessionId request.transaction) with
    ⟨unopposed, granted⟩ | ⟨_, graph, accepted, _, ⟨_, result⟩ | ⟨_, _, result⟩ | ⟨_, _, result⟩⟩
  · rw [granted]
    exact accounted.grant unopposed
  · rw [result]
    exact ⟨accounted.session, accounted.held_iff, accounted.unbegun⟩
  · rw [result]
    exact rewritten rfl rfl rfl rfl accounted.session
  · rw [result]
    refine rewritten rfl rfl rfl rfl ?_
    intro other sleeper found
    simp only [Std.ExtTreeMap.getElem?_insert, Std.LawfulEqCmp.compare_eq_iff_eq] at found
    split at found
    · cases found
      rfl
    · exact accounted.session other sleeper found

theorem Accounted.acquire {table : LockTable} (accounted : table.Accounted) (ticket : Nat)
    (request : LockRequest) : (table.acquire ticket request).1.Accounted := by
  have checked {prepared : LockTable} {asked : LockRequest}
      (prepares : table.Prepares prepared ticket (table.sessionId asked.transaction)) :
      (prepared.check ticket asked (table.sessionId asked.transaction)).1.Accounted := by
    have ready := (accounted.prepared prepares).check ticket asked
    rw [sessionId_eq prepares.ended] at ready
    exact ready
  rcases table.acquire_cases ticket request with ⟨unused, same⟩ | ⟨sleeper, found, _, same⟩ |
    ⟨_, _, _, same⟩
  · rw [same]
    exact checked (prepares_enroll unused request)
  · rw [same]
    have present := accounted.session ticket sleeper found
    have prepares := table.prepares_rouse ticket sleeper
    rw [present] at prepares ⊢
    exact checked prepares
  · rw [same]
    exact accounted

private theorem Accounted.session_of_wake {table : LockTable} (accounted : table.Accounted)
    {page : PageId} {ticket : Nat} {sleeper : Sleeper}
    (found : (table.wake page).sleepers[ticket]? = some sleeper) :
    sleeper.session = table.sessionId sleeper.request.transaction := by
  obtain ⟨before, foundBefore, request, session, _⟩ := sleeper_of_wake found
  rw [← session, ← request]
  exact accounted.session ticket before foundBefore

theorem Accounted.release {table : LockTable} (accounted : table.Accounted)
    (transaction : TransactionId) (page : PageId) :
    (table.release transaction page).Accounted := by
  by_cases untracked : table.pages[page]? = none
  · rw [release_untracked untracked]
    exact accounted
  · have ended := table.ended_release transaction page
    constructor
    · intro ticket sleeper found
      rw [sleepers_release untracked] at found
      rw [sessionId_eq ended]
      exact accounted.session_of_wake found
    · intro other onPage
      rw [sessionId_eq ended, mem_held_release untracked, lockMode?_release, accounted.held_iff]
      by_cases mine : other = transaction
      · subst other
        by_cases same : onPage = page
        · simp [same]
        · simp [same]
      · have apart : table.sessionId other ≠ table.sessionId transaction :=
          fun same => mine (congrArg SessionId.owner same)
        simp [mine, apart]
    · intro id present
      rw [ended]
      exact accounted.unbegun id (mem_sessions_release.mp present)

theorem Accounted.foldl_release {table : LockTable} (accounted : table.Accounted)
    (transaction : TransactionId) (pages : List PageId) :
    (pages.foldl (fun current page => current.release transaction page) table).Accounted := by
  induction pages generalizing table with
  | nil => exact accounted
  | cons page rest ih => exact ih (accounted.release transaction page)

theorem sleeper_of_foldl_release {table : LockTable} {transaction : TransactionId}
    {pages : List PageId} {ticket : Nat} {sleeper : Sleeper}
    (found : (pages.foldl (fun current page => current.release transaction page)
      table).sleepers[ticket]? = some sleeper) :
    ∃ before : Sleeper, table.sleepers[ticket]? = some before ∧
      before.request = sleeper.request := by
  induction pages generalizing table with
  | nil => exact ⟨sleeper, found, rfl⟩
  | cons page rest ih =>
      obtain ⟨middle, foundMiddle, sameRequest⟩ := ih found
      by_cases untracked : table.pages[page]? = none
      · change (table.release transaction page).sleepers[ticket]? = some middle at foundMiddle
        rw [release_untracked untracked] at foundMiddle
        exact ⟨middle, foundMiddle, sameRequest⟩
      · change (table.release transaction page).sleepers[ticket]? = some middle at foundMiddle
        rw [sleepers_release untracked] at foundMiddle
        obtain ⟨before, foundBefore, request, _⟩ := sleeper_of_wake foundMiddle
        exact ⟨before, foundBefore, request.trans sameRequest⟩

theorem ended_foldl_release (table : LockTable) (transaction : TransactionId)
    (pages : List PageId) :
    (pages.foldl (fun current page => current.release transaction page) table).ended =
      table.ended := by
  induction pages generalizing table with
  | nil => rfl
  | cons page rest ih => rw [List.foldl_cons, ih, ended_release]

/-- What a transaction still holds once its session has let go of all its pages is nothing. -/
theorem Accounted.lockMode?_releaseAll_self {table : LockTable} (accounted : table.Accounted)
    (transaction : TransactionId) (page : PageId) :
    (table.releaseAll transaction).lockMode? transaction page = none := by
  rw [LockTable.lockMode?_releaseAll]
  split
  · rfl
  · rename_i notListed
    by_contra holds
    exact notListed ⟨rfl, mem_heldPages.mpr ((accounted.held_iff transaction page).mpr holds)⟩

theorem sessionId_releaseAll (table : LockTable) (transaction other : TransactionId) :
    (table.releaseAll transaction).sessionId other =
      if other = transaction then ⟨transaction, table.ended.getD transaction 0 + 1⟩
      else table.sessionId other := by
  simp only [LockTable.releaseAll, sessionId, Std.ExtTreeMap.getD_insert,
    table.ended_foldl_release, Std.LawfulEqCmp.compare_eq_iff_eq, @eq_comm _ transaction other]
  split
  · rename_i same
    rw [same]
  · rfl

theorem Accounted.session_releaseAll_self {table : LockTable} (accounted : table.Accounted)
    (transaction : TransactionId) :
    (table.releaseAll transaction).session
      ⟨transaction, table.ended.getD transaction 0 + 1⟩ = Session.new := by
  have released := accounted.foldl_release transaction (table.heldPages transaction)
  have fresh : (⟨transaction, table.ended.getD transaction 0 + 1⟩ : SessionId) ∉
      (table.releaseAll transaction).sessions := by
    intro present
    have bound := released.unbegun _ present
    rw [table.ended_foldl_release] at bound
    exact Nat.not_succ_le_self _ bound
  rw [LockTable.session, Std.ExtTreeMap.getD_eq_fallback fresh]

theorem Accounted.releaseAll {table : LockTable} (accounted : table.Accounted)
    {transaction : TransactionId} (awake : table.sleeps transaction = false) :
    (table.releaseAll transaction).Accounted := by
  have released := accounted.foldl_release transaction (table.heldPages transaction)
  have nothing := accounted.lockMode?_releaseAll_self transaction
  have ended := table.ended_foldl_release transaction (table.heldPages transaction)
  have serial := table.sessionId_releaseAll transaction
  constructor
  · intro ticket sleeper found
    obtain ⟨before, foundBefore, sameRequest⟩ := sleeper_of_foldl_release found
    have different := sleeps_eq_false.mp awake ticket before foundBefore
    rw [sameRequest] at different
    rw [serial, if_neg different, released.session ticket sleeper found, sessionId_eq ended]
  · intro other page
    rw [serial]
    by_cases same : other = transaction
    · subst other
      rw [if_pos rfl, nothing]
      -- The next session has not begun, so that it holds nothing either.
      rw [accounted.session_releaseAll_self]
      simp [Session.new]
    · rw [if_neg same]
      have before := released.held_iff other page
      rw [sessionId_eq ended] at before
      exact before
  · intro id present
    have bound := released.unbegun id present
    rw [ended] at bound
    simp only [LockTable.releaseAll, Std.ExtTreeMap.getD_insert, ended,
      Std.LawfulEqCmp.compare_eq_iff_eq]
    split
    · rename_i same
      rw [same]
      exact Nat.le_succ_of_le bound
    · exact bound

theorem Accounted.interrupt {table : LockTable} (accounted : table.Accounted)
    (transaction : TransactionId) : (table.interrupt transaction).Accounted := by
  have marked : (table.setSession (table.sessionId transaction)
      (table.session (table.sessionId transaction)).interrupt).Accounted := by
    refine accounted.of_unmoved (fun _ => rfl) rfl ?_ ?_ accounted.session
    · intro id
      change ((table.sessions.insert _ _).getD id Session.new).held = _
      rw [session_insert]
      split
      · rename_i same
        rw [← same]
        rfl
      · rfl
    · intro id present
      simp only [setSession, Std.ExtTreeMap.mem_insert,
        Std.LawfulEqCmp.compare_eq_iff_eq] at present
      rcases present with same | before
      · exact Or.inr ⟨transaction, same.symm⟩
      · exact Or.inl before
  unfold LockTable.interrupt
  dsimp only
  split
  · refine ⟨?_, marked.held_iff, marked.unbegun⟩
    intro ticket sleeper found
    exact marked.session_of_wake found
  · exact marked

theorem Accounted.perform {table : LockTable} (accounted : table.Accounted) {action : LockAction}
    (orderly : table.Orderly action) : (table.perform action).Accounted := by
  cases action with
  | acquire ticket request => exact accounted.acquire ticket request
  | release transaction page => exact accounted.release transaction page
  | releaseAll transaction => exact accounted.releaseAll orderly
  | interrupt transaction => exact accounted.interrupt transaction

end RowStore.LockTable
