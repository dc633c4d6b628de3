import Mathlib.Data.List.Induction
import RowStore.Proofs.Lock.Ownership

/-!
Leftovers: what a transaction still holds after it released everything. It releases what its session
has noted, so that a page is left over when it was granted to a request that had slept while the
session ended. A page for which no request slept then is never left over.
-/

set_option autoImplicit false

namespace RowStore.LockTable

/-- The transaction's session has noted the page if the transaction holds it, and the transaction's
requests that sleep for the page are of that session. -/
structure Traceable (table : LockTable) (transaction : TransactionId) (page : PageId) : Prop where
  noted : ∀ held, table.lockMode? transaction page = some held →
    page ∈ table.heldPages transaction
  asleep : ∀ (ticket : Nat) (sleeper : Sleeper), table.sleepers[ticket]? = some sleeper →
    sleeper.request.transaction = transaction → sleeper.request.page = page →
      sleeper.session = table.sessionId transaction

theorem traceable_empty (transaction : TransactionId) (page : PageId) :
    empty.Traceable transaction page := by
  constructor
  · intro held holds
    simp [empty, lockMode?, holders] at holds
  · intro ticket sleeper found
    simp [empty] at found

section

variable {table : LockTable} {transaction : TransactionId} {page : PageId}

/-- Nothing has to be traced anew where the transaction gets no lock on the page, its session does
not end and forgets nothing, and no new request sleeps. -/
private theorem Traceable.of_kept (traceable : table.Traceable transaction page)
    (next : LockTable)
    (modes : ∀ held, next.lockMode? transaction page = some held →
      table.lockMode? transaction page = some held)
    (id : next.sessionId transaction = table.sessionId transaction)
    (held : page ∈ table.heldPages transaction → page ∈ next.heldPages transaction)
    (sleepers : ∀ (ticket : Nat) (sleeper : Sleeper), next.sleepers[ticket]? = some sleeper →
      ∃ before : Sleeper, table.sleepers[ticket]? = some before ∧
        before.request = sleeper.request ∧ before.session = sleeper.session) :
    next.Traceable transaction page := by
  constructor
  · intro mode holds
    exact held (traceable.noted mode (modes mode holds))
  · intro ticket sleeper found own onPage
    obtain ⟨before, foundBefore, request, session⟩ := sleepers ticket sleeper found
    rw [id, ← session]
    rw [← request] at own onPage
    exact traceable.asleep ticket before foundBefore own onPage

/-- A session that is written back without a grant or a release holds what it held. -/
private theorem mem_heldPages_of_insert (table next : LockTable) {session : SessionId}
    {current : Session} (sessions : next.sessions = table.sessions.insert session current)
    (ended : next.ended = table.ended) (same : current.held = (table.session session).held) :
    page ∈ next.heldPages transaction ↔ page ∈ table.heldPages transaction := by
  have id : next.sessionId transaction = table.sessionId transaction := by
    unfold sessionId
    rw [ended]
  rw [mem_heldPages, mem_heldPages, id, LockTable.session, sessions, session_insert]
  split
  · rename_i mine
    rw [same, mine]
  · exact Iff.rfl

private theorem Traceable.prepared (traceable : table.Traceable transaction page)
    {prepared : LockTable} {ticket : Nat} {session : SessionId}
    (prepares : table.Prepares prepared ticket session) :
    prepared.Traceable transaction page := by
  have id : prepared.sessionId transaction = table.sessionId transaction := by
    unfold sessionId
    rw [prepares.ended]
  apply traceable.of_kept prepared ?_ id
  · rw [mem_heldPages, mem_heldPages, id, prepares.held]
    exact fun member => member
  · intro other sleeper found
    rw [prepares.sleepers] at found
    split at found
    · cases found
    · exact ⟨sleeper, found, rfl, rfl⟩
  · intro held holds
    unfold lockMode? at holds ⊢
    rwa [prepares.holders] at holds

private theorem mem_heldPages_grant {request : LockRequest} {session : SessionId} :
    page ∈ (table.grant request session).heldPages transaction ↔
      (session = table.sessionId transaction ∧ request.page = page) ∨
        page ∈ table.heldPages transaction := by
  have notes : (table.grant request session).session (table.sessionId transaction) =
      if session = table.sessionId transaction then (table.session session).hold request.page
      else table.session (table.sessionId transaction) := session_insert
  rw [mem_heldPages, mem_heldPages]
  change page ∈ ((table.grant request session).session (table.sessionId transaction)).held ↔ _
  rw [notes]
  by_cases same : session = table.sessionId transaction
  · rw [if_pos same, same]
    simp only [Session.hold, Std.ExtTreeSet.mem_insert, Std.LawfulEqCmp.compare_eq_iff_eq,
      true_and]
  · rw [if_neg same]
    simp [same]

private theorem Traceable.grant (traceable : table.Traceable transaction page)
    {request : LockRequest} {session : SessionId}
    (own : request.transaction = transaction → request.page = page →
      session = table.sessionId transaction)
    (unopposed : (table.holders request.page).opposing request.transaction request.mode = []) :
    (table.grant request session).Traceable transaction page := by
  refine ⟨?_, traceable.asleep⟩
  intro held holds
  rw [mem_heldPages_grant]
  unfold lockMode? at holds
  rw [holders_grant] at holds
  by_cases onPage : request.page = page
  · by_cases mine : request.transaction = transaction
    · exact Or.inl ⟨own mine onPage, onPage⟩
    · rw [if_pos onPage, ← onPage,
        Holders.modeOf?_grant_of_ne unopposed (Ne.symm mine), onPage] at holds
      exact Or.inr (traceable.noted held holds)
  · rw [if_neg onPage] at holds
    exact Or.inr (traceable.noted held holds)

private theorem Traceable.check (traceable : table.Traceable transaction page)
    {request : LockRequest} {session : SessionId}
    (own : request.transaction = transaction → request.page = page →
      session = table.sessionId transaction) (ticket : Nat) :
    (table.check ticket request session).1.Traceable transaction page := by
  rcases table.check_cases ticket request session with
    ⟨unopposed, grants⟩ | ⟨_, graph, accepted, _, ⟨_, result⟩ | ⟨_, _, result⟩ | ⟨_, _, result⟩⟩
  · rw [grants]
    exact traceable.grant own unopposed
  · rw [result]
    exact ⟨traceable.noted, traceable.asleep⟩
  · rw [result]
    exact traceable.of_kept _ (fun _ holds => holds) rfl
      (Iff.mpr (mem_heldPages_of_insert table _ rfl rfl rfl))
      (fun _ sleeper found => ⟨sleeper, found, rfl, rfl⟩)
  · rw [result]
    constructor
    · intro held holds
      exact Iff.mpr (mem_heldPages_of_insert table _ rfl rfl rfl) (traceable.noted held holds)
    · intro other sleeper found mine onPage
      simp only [Std.ExtTreeMap.getElem?_insert, Std.LawfulEqCmp.compare_eq_iff_eq] at found
      split at found
      · cases found
        exact own mine onPage
      · exact traceable.asleep other sleeper found mine onPage

private theorem Traceable.acquire (traceable : table.Traceable transaction page) (ticket : Nat)
    (request : LockRequest) : (table.acquire ticket request).1.Traceable transaction page := by
  rcases table.acquire_cases ticket request with ⟨unused, same⟩ | ⟨sleeper, found, _, same⟩ |
    ⟨_, _, _, same⟩
  · rw [same]
    apply (traceable.prepared (prepares_enroll unused request)).check
    intro mine _
    rw [mine]
    rfl
  · rw [same]
    apply (traceable.prepared (prepares_rouse ticket sleeper)).check
    intro mine onPage
    exact traceable.asleep ticket sleeper found mine onPage
  · rw [same]
    exact traceable

private theorem Traceable.release (traceable : table.Traceable transaction page)
    (releaser : TransactionId) (released : PageId) :
    (table.release releaser released).Traceable transaction page := by
  by_cases untracked : table.pages[released]? = none
  · rw [release_untracked untracked]
    exact traceable
  · have id : (table.release releaser released).sessionId transaction =
        table.sessionId transaction := by
      unfold sessionId
      rw [ended_release]
    constructor
    · intro held holds
      rw [lockMode?_release] at holds
      split at holds
      · cases holds
      · rename_i others
        have member := traceable.noted held holds
        rw [mem_heldPages] at member ⊢
        rw [id, mem_held_release untracked]
        exact ⟨member, fun both => others ⟨congrArg SessionId.owner both.1, both.2⟩⟩
    · intro ticket sleeper found own onPage
      rw [sleepers_release untracked] at found
      obtain ⟨before, foundBefore, request, session, _⟩ := sleeper_of_wake found
      rw [id, ← session]
      rw [← request] at own onPage
      exact traceable.asleep ticket before foundBefore own onPage

private theorem Traceable.foldl_release (traceable : table.Traceable transaction page)
    (releaser : TransactionId) (released : List PageId) :
    (released.foldl (fun current page => current.release releaser page) table).Traceable
      transaction page := by
  induction released generalizing table with
  | nil => exact traceable
  | cons first rest ih => exact ih (traceable.release releaser first)

theorem Traceable.lockMode?_releaseAll (traceable : table.Traceable transaction page) :
    (table.releaseAll transaction).lockMode? transaction page = none := by
  rw [LockTable.lockMode?_releaseAll]
  split
  · rfl
  · rename_i unlisted
    cases holds : table.lockMode? transaction page with
    | none => rfl
    | some held => exact absurd ⟨rfl, traceable.noted held holds⟩ unlisted

private theorem Traceable.releaseAll (traceable : table.Traceable transaction page)
    {releaser : TransactionId}
    (awake : releaser = transaction → ∀ request, table.Blocked request →
      request.transaction = transaction → request.page ≠ page) :
    (table.releaseAll releaser).Traceable transaction page := by
  by_cases own : releaser = transaction
  · subst own
    constructor
    · intro held holds
      rw [traceable.lockMode?_releaseAll] at holds
      cases holds
    · intro ticket sleeper found mine onPage
      obtain ⟨before, foundBefore, request⟩ := sleeper_of_foldl_release found
      rw [← request] at mine onPage
      exact absurd onPage (awake rfl before.request ⟨ticket, before, foundBefore, rfl⟩ mine)
  · have released := traceable.foldl_release releaser (table.heldPages releaser)
    have id : (table.releaseAll releaser).sessionId transaction =
        ((table.heldPages releaser).foldl
          (fun current page => current.release releaser page) table).sessionId transaction := by
      simp only [sessionId, LockTable.releaseAll, Std.ExtTreeMap.getD_insert,
        Std.LawfulEqCmp.compare_eq_iff_eq, own, if_false]
    refine released.of_kept (table.releaseAll releaser) (fun _ holds => holds) id ?_
      (fun _ sleeper found => ⟨sleeper, found, rfl, rfl⟩)
    rw [mem_heldPages, mem_heldPages, id]
    exact fun member => member

private theorem Traceable.interrupt (traceable : table.Traceable transaction page)
    (interrupted : TransactionId) :
    (table.interrupt interrupted).Traceable transaction page := by
  have marked : (table.setSession (table.sessionId interrupted)
      (table.session (table.sessionId interrupted)).interrupt).Traceable transaction page := by
    exact traceable.of_kept _ (fun _ holds => holds) rfl
      (Iff.mpr (mem_heldPages_of_insert table _ rfl rfl rfl))
      (fun _ sleeper found => ⟨sleeper, found, rfl, rfl⟩)
  unfold LockTable.interrupt
  dsimp only
  split
  · refine ⟨marked.noted, ?_⟩
    intro ticket sleeper found mine onPage
    obtain ⟨before, foundBefore, request, session, _⟩ := sleeper_of_wake found
    rw [← request] at mine onPage
    rw [← session]
    exact marked.asleep ticket before foundBefore mine onPage
  · exact marked

end

theorem Traceable.perform {table : LockTable} {transaction : TransactionId} {page : PageId}
    (traceable : table.Traceable transaction page) {action : LockAction}
    (awake : action = .releaseAll transaction → ∀ request, table.Blocked request →
      request.transaction = transaction → request.page ≠ page) :
    (table.perform action).Traceable transaction page := by
  cases action with
  | acquire ticket request => exact traceable.acquire ticket request
  | release releaser released => exact traceable.release releaser released
  | releaseAll releaser =>
      apply traceable.releaseAll
      intro same
      exact awake (congrArg LockAction.releaseAll same)
  | interrupt interrupted => exact traceable.interrupt interrupted

/-- After every run a transaction that releases everything holds no page any more for which no
request of its own slept when it released everything before. -/
theorem releaseAll_leaves_nothing (actions : List LockAction) (transaction : TransactionId)
    (page : PageId)
    (awake : ∀ before after, actions = before ++ .releaseAll transaction :: after →
      ∀ request, (run before).Blocked request → request.transaction = transaction →
        request.page ≠ page) :
    ((run actions).releaseAll transaction).lockMode? transaction page = none := by
  have traceable : (run actions).Traceable transaction page := by
    induction actions using List.reverseRecOn with
    | nil => exact traceable_empty transaction page
    | append_singleton earlier action ih =>
        rw [run_append_singleton]
        apply Traceable.perform
        · apply ih
          intro before after same
          apply awake before (after ++ [action])
          rw [same, List.append_assoc, List.cons_append]
        · intro ends
          exact awake earlier [] (by rw [ends])
  exact traceable.lockMode?_releaseAll

/-- The second transaction asks for two pages and sleeps for the one when it releases everything,
but not for the other, which it is granted afterwards. -/
theorem releaseAll_leaves_nothing_elsewhere :
    let contested : PageId := ⟨⟨0⟩, 1⟩
    let other : PageId := ⟨⟨0⟩, 2⟩
    let actions : List LockAction :=
      [.acquire 0 ⟨⟨1⟩, contested, .exclusive⟩, .acquire 1 ⟨⟨2⟩, contested, .exclusive⟩,
        .releaseAll ⟨2⟩, .acquire 2 ⟨⟨2⟩, other, .exclusive⟩]
    (∀ before after, actions = before ++ .releaseAll ⟨2⟩ :: after →
      ∀ request, (run before).Blocked request → request.transaction = ⟨2⟩ →
        request.page ≠ other) ∧
    (run actions).lockMode? ⟨2⟩ other = some .exclusive ∧
      ((run actions).releaseAll ⟨2⟩).lockMode? ⟨2⟩ other = none := by
  intro contested other actions
  have awake : ∀ before after, actions = before ++ .releaseAll ⟨2⟩ :: after →
      ∀ request, (run before).Blocked request → request.transaction = ⟨2⟩ →
        request.page ≠ other := by
    intro before after same request blocked _
    obtain ⟨ticket, sleeper, found, rfl⟩ := blocked
    have only : before =
        [.acquire 0 ⟨⟨1⟩, contested, .exclusive⟩, .acquire 1 ⟨⟨2⟩, contested, .exclusive⟩] := by
      rcases before with _ | ⟨_, _ | ⟨_, _ | ⟨_, _ | ⟨_, _⟩⟩⟩⟩ <;> simp_all [actions]
    have sleepers : (run before).sleepers.toList =
        [(1, ⟨⟨⟨2⟩, contested, .exclusive⟩, ⟨⟨2⟩, 0⟩, false⟩)] := by
      rw [only]
      decide +kernel
    have listed := Std.ExtTreeMap.mem_toList_iff_getElem?_eq_some.mpr found
    rw [sleepers, List.mem_singleton] at listed
    cases listed
    decide
  exact ⟨awake, by decide +kernel, releaseAll_leaves_nothing actions ⟨2⟩ other awake⟩

/-- The second transaction sleeps for the page when it releases everything, and is granted it
afterwards. It still holds the page when it has released everything once more. -/
theorem late_grant_outlives_releaseAll :
    let page : PageId := ⟨⟨0⟩, 1⟩
    let actions : List LockAction :=
      [.acquire 0 ⟨⟨1⟩, page, .exclusive⟩, .acquire 1 ⟨⟨2⟩, page, .exclusive⟩, .releaseAll ⟨2⟩,
        .release ⟨1⟩ page, .acquire 1 ⟨⟨2⟩, page, .exclusive⟩]
    ((run actions).releaseAll ⟨2⟩).lockMode? ⟨2⟩ page = some .exclusive := by
  decide +kernel

end RowStore.LockTable
