import Mathlib.Data.Set.Card
import RowStore.Proofs.Lock.Waiting

/-!
Bookkeeping: a lock table keeps who holds what twice, with the page and with the session, and keeps
beside its sleepers what each session sleeps for and which pages are looked after. However orderly
requests, releases and interrupts follow one another, these accounts agree.
-/

set_option autoImplicit false

namespace RowStore

theorem Holders.exists_modeOf?_of_not_isFree {holders : Holders} (taken : holders.isFree = false) :
    ∃ transaction, holders.modeOf? transaction ≠ none := by
  cases alone : holders.exclusive with
  | some owner =>
      refine ⟨owner, ?_⟩
      rw [Holders.modeOf?_eq_some_exclusive.mpr alone]
      exact Option.some_ne_none _
  | none =>
      have occupied : holders.shared.isEmpty = false := by
        simpa [Holders.isFree, alone] using taken
      rw [Std.ExtTreeSet.isEmpty_eq_false_iff, Std.ExtTreeSet.eq_empty_iff_forall_not_mem,
        not_forall_not] at occupied
      obtain ⟨member, present⟩ := occupied
      refine ⟨member, ?_⟩
      intro absent
      exact (Holders.modeOf?_eq_none.mp absent).2 present

namespace LockTable

def current (table : LockTable) (transaction : TransactionId) : Session :=
  table.session (table.sessionId transaction)

def Held (table : LockTable) (page : PageId) : Prop :=
  ∃ transaction, table.lockMode? transaction page ≠ none

/-- Every session notes the page that a request of its transaction sleeps for, and nobody sleeps
unwoken whose session was interrupted. -/
structure Noted (table : LockTable) : Prop where
  waiting : ∀ transaction page, (table.current transaction).waitingOn = some page ↔
    ∃ request, table.Blocked request ∧ request.transaction = transaction ∧ request.page = page
  calm : ∀ (ticket : Nat) (sleeper : Sleeper), table.sleepers[ticket]? = some sleeper →
    sleeper.woken = false → (table.current sleeper.request.transaction).interrupted = false

structure Attended (table : LockTable) : Prop extends table.Noted where
  tracked : ∀ page ∈ table.pages, table.Held page ∨
    ∃ request, table.Blocked request ∧ request.page = page

theorem attended_empty : empty.Attended := by
  refine ⟨⟨?_, ?_⟩, ?_⟩
  · intro transaction page
    simp [empty, current, session, Session.new, Blocked]
  · intro ticket sleeper found
    simp [empty] at found
  · intro page tracked
    simp [empty] at tracked

section

variable {table next : LockTable}

theorem blocked_congr (same : next.sleepers = table.sleepers) (request : LockRequest) :
    next.Blocked request ↔ table.Blocked request := by
  unfold Blocked
  rw [same]

theorem held_congr {page : PageId} (same : next.holders page = table.holders page) :
    next.Held page ↔ table.Held page := by
  unfold Held lockMode?
  rw [same]

theorem Opposes.held {holder : TransactionId} {request : LockRequest}
    (opposes : table.Opposes holder request) : table.Held request.page := by
  obtain ⟨_, mode, holds, _⟩ := opposes
  refine ⟨holder, ?_⟩
  rw [holds]
  exact Option.some_ne_none mode

/-- A session that is written back is what is noted of its own transaction and of no other. -/
theorem current_of_insert (table next : LockTable) (ended : next.ended = table.ended) {owner : TransactionId}
    {session : Session}
    (sessions : next.sessions = table.sessions.insert (table.sessionId owner) session)
    (transaction : TransactionId) :
    next.current transaction = if owner = transaction then session
      else table.current transaction := by
  have sameId : next.sessionId transaction = table.sessionId transaction := by
    unfold sessionId
    rw [ended]
  rw [current, sameId, LockTable.session, sessions, session_insert]
  by_cases same : owner = transaction
  · rw [if_pos same, same, if_pos rfl]
  · rw [if_neg same, if_neg (fun ids => same (congrArg SessionId.owner ids))]
    rfl

theorem Noted.waitingOn_eq_none (noted : table.Noted) {transaction : TransactionId}
    (awake : ∀ request, table.Blocked request → request.transaction ≠ transaction) :
    (table.current transaction).waitingOn = none := by
  rw [Option.eq_none_iff_forall_ne_some]
  intro page waits
  obtain ⟨request, blocked, own, _⟩ := (noted.waiting transaction page).mp waits
  exact awake request blocked own

/-- Sessions may be rewritten while their sleepers sleep on, if they note the same page and are not
interrupted. -/
theorem Noted.of_current (noted : table.Noted) (sleepers : next.sleepers = table.sleepers)
    (waiting : ∀ transaction, (next.current transaction).waitingOn =
      (table.current transaction).waitingOn)
    (calm : ∀ transaction, (table.current transaction).interrupted = false →
      (next.current transaction).interrupted = false) : next.Noted := by
  constructor
  · intro transaction page
    simp only [waiting, noted.waiting, blocked_congr sleepers]
  · intro ticket sleeper found asleep
    rw [sleepers] at found
    exact calm _ (noted.calm ticket sleeper found asleep)

theorem Noted.of_insert (noted : table.Noted) (sleepers : next.sleepers = table.sleepers)
    (ended : next.ended = table.ended) {owner : TransactionId} {session : Session}
    (sessions : next.sessions = table.sessions.insert (table.sessionId owner) session)
    (waiting : session.waitingOn = (table.current owner).waitingOn)
    (calm : (table.current owner).interrupted = false → session.interrupted = false) :
    next.Noted := by
  have rewritten := table.current_of_insert next ended sessions
  apply noted.of_current sleepers
  · intro transaction
    rw [rewritten]
    split
    · rename_i same
      rw [waiting, same]
    · rfl
  · intro transaction before
    rw [rewritten]
    split
    · rename_i same
      rw [← same] at before
      exact calm before
    · exact before

/-! ### Checks -/

/-- A table in which the request is about to be checked: its page is looked after already, and
nothing of its transaction sleeps. -/
private structure Poised (table : LockTable) (request : LockRequest) : Prop
    extends table.Noted where
  tracked : ∀ page ∈ table.pages, table.Held page ∨
    (∃ asked, table.Blocked asked ∧ asked.page = page) ∨ page = request.page
  awake : ∀ asked, table.Blocked asked → asked.transaction ≠ request.transaction

private theorem blocked_insert {ticket : Nat} {sleeper : Sleeper}
    (unused : table.sleepers[ticket]? = none)
    (sleepers : next.sleepers = table.sleepers.insert ticket sleeper) (request : LockRequest) :
    next.Blocked request ↔ request = sleeper.request ∨ table.Blocked request := by
  unfold Blocked
  simp only [sleepers, Std.ExtTreeMap.getElem?_insert, Std.LawfulEqCmp.compare_eq_iff_eq]
  constructor
  · rintro ⟨other, found, present, rfl⟩
    split at present
    · cases present
      exact Or.inl rfl
    · exact Or.inr ⟨other, found, present, rfl⟩
  · rintro (rfl | ⟨other, found, present, rfl⟩)
    · exact ⟨ticket, sleeper, if_pos rfl, rfl⟩
    · refine ⟨other, found, ?_, rfl⟩
      rw [if_neg]
      · exact present
      · rintro rfl
        rw [unused] at present
        cases present

private theorem Poised.asleep {ticket : Nat} {request : LockRequest}
    (poised : table.Poised request) (unused : table.sleepers[ticket]? = none)
    (uninterrupted : (table.current request.transaction).interrupted = false)
    (ended : next.ended = table.ended)
    (sessions : next.sessions = table.sessions.insert (table.sessionId request.transaction)
      ((table.current request.transaction).wait request.page))
    (sleepers : next.sleepers = table.sleepers.insert ticket
      ⟨request, table.sessionId request.transaction, false⟩) : next.Noted := by
  have rewritten := table.current_of_insert next ended sessions
  constructor
  · intro transaction page
    simp only [blocked_insert unused sleepers, rewritten]
    by_cases own : request.transaction = transaction
    · subst own
      rw [if_pos rfl]
      constructor
      · intro waits
        exact ⟨request, Or.inl rfl, rfl, Option.some.inj waits⟩
      · rintro ⟨asked, rfl | blocked, mine, rfl⟩
        · rfl
        · exact absurd mine (poised.awake asked blocked)
    · rw [if_neg own, poised.waiting]
      constructor
      · rintro ⟨asked, blocked, rest⟩
        exact ⟨asked, Or.inr blocked, rest⟩
      · rintro ⟨asked, rfl | blocked, rest⟩
        · exact absurd rest.1 own
        · exact ⟨asked, blocked, rest⟩
  · intro other sleeper found asleep
    simp only [sleepers, Std.ExtTreeMap.getElem?_insert,
      Std.LawfulEqCmp.compare_eq_iff_eq] at found
    rw [rewritten]
    split
    · exact uninterrupted
    · rename_i different
      split at found
      · cases found
        exact absurd rfl different
      · exact poised.calm other sleeper found asleep

private theorem Poised.check {ticket : Nat} {request : LockRequest}
    (poised : table.Poised request) (unused : table.sleepers[ticket]? = none) :
    (table.check ticket request (table.sessionId request.transaction)).1.Attended := by
  have silent := poised.waitingOn_eq_none poised.awake
  rcases table.check_cases ticket request (table.sessionId request.transaction) with
    ⟨_, result⟩ | ⟨opposed, graph, accepted, _, verdicts⟩
  · rw [result]
    refine ⟨poised.of_insert rfl rfl rfl rfl id, ?_⟩
    intro page tracked
    by_cases same : page = request.page
    · left
      refine ⟨request.transaction, ?_⟩
      unfold lockMode?
      rw [holders_grant, if_pos same.symm, same]
      obtain ⟨mode, holds, _⟩ := Holders.modeOf?_grant_self (table.holders request.page)
        request.transaction request.mode
      rw [holds]
      exact Option.some_ne_none mode
    · have before : page ∈ table.pages := by
        simpa [grant, Ne.symm same] using tracked
      have unmoved := (table.holders_grant request (table.sessionId request.transaction)
        page).trans (if_neg (Ne.symm same))
      rcases poised.tracked page before with held | blocked | own
      · exact Or.inl ((held_congr unmoved).mpr held)
      · exact Or.inr blocked
      · exact absurd own same
  · obtain ⟨holder, member⟩ := List.exists_mem_of_ne_nil _ opposed
    have heldHere : table.Held request.page :=
      (opposes_iff_mem_opposing.mpr member).held
    have tracked (page : PageId) (present : page ∈ table.pages) : table.Held page ∨
        ∃ asked, table.Blocked asked ∧ asked.page = page := by
      rcases poised.tracked page present with held | blocked | rfl
      · exact Or.inl held
      · exact Or.inr blocked
      · exact Or.inl heldHere
    rcases verdicts with ⟨_, result⟩ | ⟨_, _, result⟩ | ⟨_, uninterrupted, result⟩
    · rw [result]
      exact ⟨poised.of_current rfl (fun _ => rfl) (fun _ => id), tracked⟩
    · rw [result]
      exact ⟨poised.of_insert rfl rfl rfl silent.symm (fun _ => rfl), tracked⟩
    · rw [result]
      refine ⟨poised.asleep unused uninterrupted rfl rfl rfl, ?_⟩
      intro page present
      rcases tracked page present with held | ⟨asked, blocked, onPage⟩
      · exact Or.inl held
      · exact Or.inr ⟨asked, (blocked_insert unused rfl asked).mpr (Or.inr blocked), onPage⟩

private theorem Attended.enrolled (attended : table.Attended) {request : LockRequest}
    (awake : table.sleeps request.transaction = false) : (table.enroll request).Poised request := by
  have same (transaction : TransactionId) :
      (table.enroll request).current transaction = table.current transaction :=
    table.session_enroll request (table.sessionId transaction)
  refine ⟨attended.of_current rfl (fun transaction => by rw [same]) (fun transaction => by
    rw [same]; exact id), ?_, ?_⟩
  · intro page present
    simp only [enroll, Std.ExtTreeMap.mem_insertIfNew,
      Std.LawfulEqCmp.compare_eq_iff_eq] at present
    rcases present with own | before
    · exact Or.inr (Or.inr own.symm)
    · rcases attended.tracked page before with held | blocked
      · exact Or.inl ((held_congr (table.holders_enroll request page)).mpr held)
      · exact Or.inr (Or.inl blocked)
  · rintro asked ⟨ticket, sleeper, found, rfl⟩
    exact sleeps_eq_false.mp awake ticket sleeper found

theorem Accounted.sessions_rouse (accounted : table.Accounted) {ticket : Nat} {sleeper : Sleeper}
    (found : table.sleepers[ticket]? = some sleeper) :
    (table.rouse ticket sleeper).sessions = table.sessions.insert
      (table.sessionId sleeper.request.transaction)
      (table.current sleeper.request.transaction).stopWaiting := by
  unfold current
  rw [← accounted.session ticket sleeper found]
  rfl

/-- A sleeper that is to be checked anew sleeps no longer, and was its transaction's only one. -/
private theorem Attended.roused (attended : table.Attended) (accounted : table.Accounted)
    (coherent : table.Coherent) {ticket : Nat} {sleeper : Sleeper}
    (found : table.sleepers[ticket]? = some sleeper) :
    (table.rouse ticket sleeper).Poised sleeper.request := by
  have rewritten (transaction : TransactionId) :
      (table.rouse ticket sleeper).current transaction =
        if sleeper.request.transaction = transaction then
          (table.current sleeper.request.transaction).stopWaiting
        else table.current transaction :=
    table.current_of_insert (table.rouse ticket sleeper) rfl (accounted.sessions_rouse found)
      transaction
  have before {other : Nat} {another : Sleeper}
      (present : (table.rouse ticket sleeper).sleepers[other]? = some another) :
      table.sleepers[other]? = some another ∧
        sleeper.request.transaction ≠ another.request.transaction := by
    rw [(table.prepares_rouse ticket sleeper).sleepers] at present
    split at present
    · cases present
    · rename_i different
      refine ⟨present, ?_⟩
      intro same
      exact different (coherent.single ticket other sleeper another found present same).symm
  have blocked_iff (asked : LockRequest) : (table.rouse ticket sleeper).Blocked asked ↔
      table.Blocked asked ∧ sleeper.request.transaction ≠ asked.transaction := by
    constructor
    · rintro ⟨other, another, present, rfl⟩
      exact ⟨⟨other, another, (before present).1, rfl⟩, (before present).2⟩
    · rintro ⟨⟨other, another, present, rfl⟩, different⟩
      refine ⟨other, another, ?_, rfl⟩
      rw [(table.prepares_rouse ticket sleeper).sleepers, if_neg]
      · exact present
      · rintro rfl
        rw [found] at present
        cases present
        exact different rfl
  refine ⟨⟨?_, ?_⟩, ?_, ?_⟩
  · intro transaction page
    simp only [rewritten, blocked_iff]
    by_cases own : sleeper.request.transaction = transaction
    · subst own
      rw [if_pos rfl]
      constructor
      · intro waits
        cases waits
      · rintro ⟨asked, ⟨_, different⟩, mine, _⟩
        exact absurd mine.symm different
    · rw [if_neg own, attended.waiting]
      constructor
      · rintro ⟨asked, blocked, rfl, onPage⟩
        exact ⟨asked, ⟨blocked, own⟩, rfl, onPage⟩
      · rintro ⟨asked, ⟨blocked, _⟩, rest⟩
        exact ⟨asked, blocked, rest⟩
  · intro other another present asleep
    rw [rewritten, if_neg (before present).2]
    exact attended.calm other another (before present).1 asleep
  · intro page present
    rcases attended.tracked page present with held | ⟨asked, blocked, onPage⟩
    · exact Or.inl held
    · right
      by_cases own : sleeper.request.transaction = asked.transaction
      · right
        obtain ⟨other, another, presentOther, rfl⟩ := blocked
        have same := coherent.single ticket other sleeper another found presentOther own
        subst same
        rw [found] at presentOther
        cases presentOther
        exact onPage.symm
      · exact Or.inl ⟨asked, (blocked_iff asked).mpr ⟨blocked, own⟩, onPage⟩
  · intro asked blocked
    exact ((blocked_iff asked).mp blocked).2.symm

theorem Attended.acquire (attended : table.Attended) (sound : table.Sound) {ticket : Nat}
    {request : LockRequest} (orderly : table.Orderly (.acquire ticket request)) :
    (table.acquire ticket request).1.Attended := by
  rcases table.acquire_cases ticket request with ⟨unused, same⟩ | ⟨sleeper, found, _, same⟩ |
    ⟨_, _, _, same⟩
  · rw [same]
    exact (attended.enrolled (orderly unused)).check unused
  · rw [same, sound.accounted.session ticket sleeper found]
    refine (attended.roused sound.accounted sound.coherent found).check ?_
    rw [(table.prepares_rouse ticket sleeper).sleepers, if_pos rfl]
  · rw [same]
    exact attended

/-! ### Releases and interrupts -/

theorem blocked_wake (table : LockTable) (page : PageId) (request : LockRequest) :
    (table.wake page).Blocked request ↔ table.Blocked request := by
  constructor
  · rintro ⟨ticket, sleeper, found, rfl⟩
    obtain ⟨before, present, same, _⟩ := sleeper_of_wake found
    exact ⟨ticket, before, present, same⟩
  · rintro ⟨ticket, sleeper, found, rfl⟩
    obtain ⟨after, present, same⟩ := exists_sleeper_wake page found
    exact ⟨ticket, after, present, same⟩

theorem Noted.wake (noted : table.Noted) (page : PageId) : (table.wake page).Noted := by
  constructor
  · intro transaction onPage
    simp only [blocked_wake]
    exact noted.waiting transaction onPage
  · intro ticket sleeper found asleep
    obtain ⟨before, present, _, _, unwoken⟩ := sleeper_of_wake found
    rw [(unwoken asleep).1] at present
    exact noted.calm ticket sleeper present asleep

theorem session_release (table : LockTable) (transaction : TransactionId) (page : PageId)
    (id : SessionId) : ∃ held, (table.release transaction page).session id =
      { table.session id with held := held } := by
  unfold release
  split
  · exact ⟨_, rfl⟩
  · simp only [LockTable.wake, session, Std.ExtTreeMap.getD_eq_getD_getElem?,
      Std.ExtTreeMap.getElem?_modify, Std.LawfulEqCmp.compare_eq_iff_eq]
    split
    · rename_i same
      subst same
      cases table.sessions[table.sessionId transaction]? with
      | none => exact ⟨_, rfl⟩
      | some session => exact ⟨_, rfl⟩
    · exact ⟨_, rfl⟩

theorem hasSleeper_eq_true {page : PageId} :
    table.hasSleeper page = true ↔ ∃ request, table.Blocked request ∧ request.page = page := by
  simp only [hasSleeper, List.any_eq_true, beq_iff_eq, Prod.exists,
    Std.ExtTreeMap.mem_toList_iff_getElem?_eq_some, Blocked]
  constructor
  · rintro ⟨ticket, sleeper, found, onPage⟩
    exact ⟨sleeper.request, ⟨ticket, sleeper, found, rfl⟩, onPage⟩
  · rintro ⟨request, ⟨ticket, sleeper, found, rfl⟩, onPage⟩
    exact ⟨ticket, sleeper, found, onPage⟩

theorem current_release (table : LockTable) (transaction : TransactionId) (page : PageId)
    (other : TransactionId) : ∃ held, (table.release transaction page).current other =
      { table.current other with held := held } := by
  have sameId : (table.release transaction page).sessionId other = table.sessionId other := by
    unfold sessionId
    rw [ended_release]
  rw [current, sameId]
  exact table.session_release transaction page (table.sessionId other)

/-- After a release a page is looked after that was before and, if it is the page released, that
somebody holds or sleeps for. -/
theorem tracked_of_release {transaction : TransactionId} {page onPage : PageId}
    (present : onPage ∈ (table.release transaction page).pages) :
    onPage ∈ table.pages ∧ (onPage = page →
      ((table.holders page).release transaction).isFree = false ∨
        table.hasSleeper page = true) := by
  unfold release at present
  cases found : table.pages[page]? with
  | none =>
      rw [found] at present
      refine ⟨present, ?_⟩
      rintro rfl
      have tracked := Std.ExtTreeMap.mem_iff_isSome_getElem?.mp present
      rw [found] at tracked
      cases tracked
  | some holders =>
      rw [found] at present
      have tracked : page ∈ table.pages := Std.ExtTreeMap.mem_iff_isSome_getElem?.mpr (by
        rw [found]
        rfl)
      have here : table.holders page = holders := by
        simp [LockTable.holders, Std.ExtTreeMap.getD_eq_getD_getElem?, found]
      rw [here]
      simp only [LockTable.wake] at present
      split at present
      · rw [Std.ExtTreeMap.mem_erase] at present
        refine ⟨present.2, ?_⟩
        rintro rfl
        exact absurd Std.ReflCmp.compare_self present.1
      · rename_i kept
        rw [Std.ExtTreeMap.mem_insert, Std.LawfulEqCmp.compare_eq_iff_eq] at present
        refine ⟨?_, ?_⟩
        · rcases present with rfl | before
          · exact tracked
          · exact before
        · intro _
          simpa [imp_iff_not_or] using kept

theorem Attended.release (attended : table.Attended) (transaction : TransactionId)
    (page : PageId) : (table.release transaction page).Attended := by
  by_cases untracked : table.pages[page]? = none
  · rw [release_untracked untracked]
    exact attended
  · have sleepers : (table.release transaction page).sleepers = (table.wake page).sleepers :=
      Std.ExtTreeMap.ext_getElem? (sleepers_release untracked transaction)
    have noted : (table.release transaction page).Noted := by
      apply (attended.wake page).of_current sleepers
      · intro other
        obtain ⟨held, same⟩ := table.current_release transaction page other
        rw [same]
        rfl
      · intro other before
        obtain ⟨held, same⟩ := table.current_release transaction page other
        rw [same]
        exact before
    refine ⟨noted, ?_⟩
    intro onPage present
    simp only [blocked_congr sleepers, blocked_wake]
    obtain ⟨before, stays⟩ := tracked_of_release present
    by_cases same : onPage = page
    · subst same
      rcases stays rfl with taken | asleep
      · left
        obtain ⟨other, holds⟩ := Holders.exists_modeOf?_of_not_isFree taken
        refine ⟨other, ?_⟩
        unfold lockMode?
        rw [holders_release, if_pos rfl]
        exact holds
      · exact Or.inr (hasSleeper_eq_true.mp asleep)
    · rcases attended.tracked onPage before with held | blocked
      · left
        refine (held_congr ?_).mpr held
        rw [holders_release, if_neg same]
      · exact Or.inr blocked

theorem Attended.foldl_release (attended : table.Attended) (transaction : TransactionId)
    (pages : List PageId) :
    (pages.foldl (fun current page => current.release transaction page) table).Attended := by
  induction pages generalizing table with
  | nil => exact attended
  | cons page rest ih => exact ih (attended.release transaction page)

theorem current_foldl_release (table : LockTable) (transaction : TransactionId)
    (pages : List PageId) (other : TransactionId) :
    ∃ held, (pages.foldl (fun current page => current.release transaction page) table).current
      other = { table.current other with held := held } := by
  induction pages generalizing table with
  | nil => exact ⟨_, rfl⟩
  | cons page rest ih =>
      obtain ⟨first, released⟩ := table.current_release transaction page other
      obtain ⟨last, later⟩ := ih (table.release transaction page)
      refine ⟨last, ?_⟩
      rw [List.foldl_cons, later, released]

theorem current_releaseAll (accounted : table.Accounted) (transaction other : TransactionId) :
    (table.releaseAll transaction).current other = if other = transaction then Session.new
      else ((table.heldPages transaction).foldl
        (fun current page => current.release transaction page) table).current other := by
  rw [current, sessionId_releaseAll]
  split
  · exact accounted.session_releaseAll_self transaction
  · unfold current sessionId
    rw [ended_foldl_release]
    rfl

theorem Attended.releaseAll (attended : table.Attended) (accounted : table.Accounted)
    {transaction : TransactionId} (awake : table.sleeps transaction = false) :
    (table.releaseAll transaction).Attended := by
  have released := attended.foldl_release transaction (table.heldPages transaction)
  have ofOther {request : LockRequest}
      (blocked : (table.releaseAll transaction).Blocked request) :
      request.transaction ≠ transaction := by
    obtain ⟨ticket, sleeper, found, rfl⟩ := blocked
    obtain ⟨before, present, same⟩ := sleeper_of_foldl_release found
    rw [← same]
    exact sleeps_eq_false.mp awake ticket before present
  refine ⟨⟨?_, ?_⟩, released.tracked⟩
  · intro other page
    rw [current_releaseAll accounted]
    split
    · rename_i own
      subst own
      constructor
      · intro waits
        cases waits
      · rintro ⟨request, blocked, mine, _⟩
        exact absurd mine (ofOther blocked)
    · exact released.waiting other page
  · intro ticket sleeper found asleep
    rw [current_releaseAll accounted, if_neg (ofOther ⟨ticket, sleeper, found, rfl⟩)]
    exact released.calm ticket sleeper found asleep

/-- An interrupt is noted of the transaction alone, and if a request of the transaction sleeps, it is
among those that are woken. -/
theorem interrupt_cases (table : LockTable) (transaction : TransactionId) :
    (∀ other, (table.interrupt transaction).current other =
      if transaction = other then (table.current transaction).interrupt
      else table.current other) ∧
    (table.interrupt transaction).pages = table.pages ∧
    (((table.current transaction).waitingOn = none ∧
        (table.interrupt transaction).sleepers = table.sleepers) ∨
      ∃ page, (table.current transaction).waitingOn = some page ∧
        (table.interrupt transaction).sleepers = (table.wake page).sleepers) := by
  have marks (other : TransactionId) :
      (table.setSession (table.sessionId transaction)
        (table.current transaction).interrupt).current other =
          if transaction = other then (table.current transaction).interrupt
          else table.current other :=
    table.current_of_insert (table.setSession (table.sessionId transaction)
      (table.current transaction).interrupt) rfl rfl other
  unfold interrupt
  dsimp only
  split
  · rename_i page waits
    exact ⟨marks, rfl, Or.inr ⟨page, waits, rfl⟩⟩
  · rename_i silent
    exact ⟨marks, rfl, Or.inl ⟨silent, rfl⟩⟩

theorem Attended.interrupt (attended : table.Attended) (transaction : TransactionId) :
    (table.interrupt transaction).Attended := by
  obtain ⟨marks, pages, woken⟩ := table.interrupt_cases transaction
  have blocked_iff (request : LockRequest) :
      (table.interrupt transaction).Blocked request ↔ table.Blocked request := by
    rcases woken with ⟨_, sleepers⟩ | ⟨page, _, sleepers⟩
    · exact blocked_congr sleepers request
    · exact (blocked_congr sleepers request).trans (blocked_wake table page request)
  refine ⟨⟨?_, ?_⟩, ?_⟩
  · intro other page
    have kept : ((table.interrupt transaction).current other).waitingOn =
        (table.current other).waitingOn := by
      rw [marks]
      split
      · rename_i same
        rw [← same]
        rfl
      · rfl
    simp only [kept, blocked_iff]
    exact attended.waiting other page
  · intro ticket sleeper found asleep
    -- A sleeper of the transaction itself is woken, so that this one is of another.
    have unwoken : table.sleepers[ticket]? = some sleeper ∧
        sleeper.request.transaction ≠ transaction := by
      have noted (present : table.sleepers[ticket]? = some sleeper)
          (own : sleeper.request.transaction = transaction) :
          (table.current transaction).waitingOn = some sleeper.request.page :=
        (attended.waiting transaction sleeper.request.page).mpr
          ⟨sleeper.request, ⟨ticket, sleeper, present, rfl⟩, own, rfl⟩
      rcases woken with ⟨silent, sleepers⟩ | ⟨page, waits, sleepers⟩
      · rw [sleepers] at found
        refine ⟨found, ?_⟩
        intro own
        rw [noted found own] at silent
        cases silent
      · rw [sleepers] at found
        obtain ⟨before, present, _, _, untouched⟩ := sleeper_of_wake found
        obtain ⟨rfl, elsewhere⟩ := untouched asleep
        refine ⟨present, ?_⟩
        intro own
        rw [noted present own] at waits
        exact elsewhere (Option.some.inj waits)
    rw [marks, if_neg (Ne.symm unwoken.2)]
    exact attended.calm ticket sleeper unwoken.1 asleep
  · intro page present
    rw [pages] at present
    simp only [held_congr (table.holders_interrupt transaction page), blocked_iff]
    exact attended.tracked page present

theorem Attended.perform (attended : table.Attended) (sound : table.Sound) {action : LockAction}
    (orderly : table.Orderly action) : (table.perform action).Attended := by
  cases action with
  | acquire ticket request => exact attended.acquire sound orderly
  | release transaction page => exact attended.release transaction page
  | releaseAll transaction => exact attended.releaseAll sound.accounted orderly
  | interrupt transaction => exact attended.interrupt transaction

end

theorem attended_run {actions : List LockAction} (orderly : empty.OrderlyFrom actions) :
    (run actions).Attended := by
  have step (table : LockTable) (action : LockAction)
      (kept : table.Sound ∧ table.Attended) (orderly : table.Orderly action) :
      (table.perform action).Sound ∧ (table.perform action).Attended :=
    ⟨kept.1.perform orderly, kept.2.perform kept.1 orderly⟩
  exact (orderlyFrom_invariant step ⟨sound_empty, attended_empty⟩ orderly).2

/-! ### Agreement -/

section

variable {table : LockTable}

theorem Attended.isSome_waitingOn (attended : table.Attended) {transaction : TransactionId} :
    (table.current transaction).waitingOn.isSome = true ↔ table.sleeps transaction = true := by
  rw [Option.isSome_iff_exists, sleeps_eq_true_iff_blocked]
  constructor
  · rintro ⟨page, waits⟩
    obtain ⟨request, blocked, own, _⟩ := (attended.waiting transaction page).mp waits
    exact ⟨request, blocked, own⟩
  · rintro ⟨request, blocked, own⟩
    exact ⟨request.page, (attended.waiting transaction request.page).mpr
      ⟨request, blocked, own, rfl⟩⟩

theorem current_eq (table : LockTable) (transaction : TransactionId) :
    table.current transaction = (table.session? transaction).getD Session.new := by
  unfold current session session?
  rw [Std.ExtTreeMap.getD_eq_getD_getElem?]

theorem isWaiting_eq (table : LockTable) (transaction : TransactionId) :
    table.isWaiting transaction = (table.current transaction).waitingOn.isSome := by
  rw [current_eq]
  unfold isWaiting
  cases table.session? transaction <;> rfl

theorem holdsLock_eq_true {transaction : TransactionId} {page : PageId} :
    table.holdsLock transaction page = true ↔ page ∈ (table.current transaction).held := by
  rw [current_eq]
  unfold holdsLock
  cases table.session? transaction with
  | none => simp [Session.new]
  | some session => simp

theorem isSome_session? {transaction : TransactionId}
    (active : (∃ page, page ∈ (table.current transaction).held) ∨
      (table.current transaction).waitingOn.isSome = true) :
    (table.session? transaction).isSome = true := by
  rw [current_eq] at active
  cases begun : table.session? transaction with
  | some session => rfl
  | none =>
      rw [begun] at active
      simp [Session.new] at active

theorem Held.mem_pages {page : PageId} (held : table.Held page) : page ∈ table.pages := by
  by_contra untracked
  obtain ⟨transaction, holds⟩ := held
  unfold lockMode? at holds
  rw [holders_of_untracked (Std.ExtTreeMap.getElem?_eq_none untracked),
    Holders.modeOf?_nobody] at holds
  exact holds rfl

theorem Sound.held_of_blocked (sound : table.Sound) (quiet : table.wokenTickets = [])
    {request : LockRequest} (blocked : table.Blocked request) : table.Held request.page := by
  obtain ⟨ticket, sleeper, found, rfl⟩ := blocked
  obtain ⟨holder, _, opposes⟩ := sound.exists_wait found (woken_eq_false quiet found)
  exact opposes.held

theorem Attended.mem_pages (attended : table.Attended) (sound : table.Sound)
    (quiet : table.wokenTickets = []) {page : PageId} : page ∈ table.pages ↔ table.Held page := by
  constructor
  · intro tracked
    rcases attended.tracked page tracked with held | ⟨request, blocked, rfl⟩
    · exact held
    · exact sound.held_of_blocked quiet blocked
  · exact Held.mem_pages

theorem encard_mem_pages (table : LockTable) :
    {page | page ∈ table.pages}.encard = table.trackedPages := by
  have listed : {page | page ∈ table.pages} = (table.pages.keys.toFinset : Set PageId) := by
    ext page
    simp
  rw [listed, Set.encard_coe_eq_coe_finsetCard,
    List.toFinset_card_of_nodup Std.ExtTreeMap.nodup_keys, Std.ExtTreeMap.length_keys]
  rfl

end

/-- After every orderly run that leaves nobody to be checked anew: a page is among those that a
transaction's session holds just when the transaction has a lock on it, and its exclusive holder is
who has it in exclusive mode; a transaction counts as waiting just when a request of it sleeps; the
session of whoever holds or waits for something is kept; and as many pages are looked after as are
held. -/
theorem accounts_agree {actions : List LockAction} (orderly : empty.OrderlyFrom actions)
    (quiet : (run actions).wokenTickets = []) :
    (∀ transaction page,
      (page ∈ (run actions).heldPages transaction ↔
        (run actions).lockMode? transaction page ≠ none) ∧
      ((run actions).holdsLock transaction page = true ↔
        (run actions).lockMode? transaction page ≠ none) ∧
      ((run actions).exclusiveHolder? page = some transaction ↔
        (run actions).lockMode? transaction page = some .exclusive)) ∧
    (∀ transaction, (run actions).isWaiting transaction = true ↔
      ∃ request, (run actions).Blocked request ∧ request.transaction = transaction) ∧
    (∀ transaction,
      ((∃ page, (run actions).lockMode? transaction page ≠ none) ∨
        ∃ request, (run actions).Blocked request ∧ request.transaction = transaction) →
      ((run actions).session? transaction).isSome = true) ∧
    {page | ∃ transaction, (run actions).lockMode? transaction page ≠ none}.encard =
      (run actions).trackedPages := by
  have sound := sound_run orderly
  have attended := attended_run orderly
  refine ⟨?_, ?_, ?_, ?_⟩
  · intro transaction page
    have held := sound.accounted.held_iff transaction page
    exact ⟨mem_heldPages.trans held, holdsLock_eq_true.trans held,
      Holders.modeOf?_eq_some_exclusive.symm⟩
  · intro transaction
    rw [isWaiting_eq, attended.isSome_waitingOn, sleeps_eq_true_iff_blocked]
  · intro transaction active
    apply isSome_session?
    rcases active with ⟨page, holds⟩ | waits
    · exact Or.inl ⟨page, (sound.accounted.held_iff transaction page).mpr holds⟩
    · exact Or.inr (attended.isSome_waitingOn.mpr (sleeps_eq_true_iff_blocked.mpr waits))
  · rw [← encard_mem_pages]
    congr 1
    ext page
    exact (attended.mem_pages sound quiet).symm

/-- The second transaction is refused a page for a deadlock, the third sleeps for it until the first
lets go, and a page that nobody holds any more is forgotten. -/
theorem accounts_agree_handover :
    let first : PageId := ⟨⟨0⟩, 1⟩
    let second : PageId := ⟨⟨0⟩, 2⟩
    let third : PageId := ⟨⟨0⟩, 3⟩
    let actions : List LockAction :=
      [.acquire 0 ⟨⟨1⟩, first, .exclusive⟩, .acquire 1 ⟨⟨2⟩, second, .shared⟩,
        .acquire 2 ⟨⟨1⟩, second, .exclusive⟩, .acquire 3 ⟨⟨2⟩, first, .shared⟩,
        .acquire 4 ⟨⟨3⟩, first, .shared⟩, .acquire 5 ⟨⟨4⟩, third, .shared⟩,
        .release ⟨1⟩ first, .acquire 4 ⟨⟨3⟩, first, .shared⟩, .releaseAll ⟨4⟩]
    empty.OrderlyFrom actions ∧ (run actions).wokenTickets = [] ∧
      {page | ∃ transaction, (run actions).lockMode? transaction page ≠ none}.encard =
        (run actions).trackedPages ∧
      (run actions).trackedPages = 2 := by
  intro first second third actions
  have orderly : empty.OrderlyFrom actions := by decide +kernel
  have quiet : (run actions).wokenTickets = [] := by decide +kernel
  have two : (run actions).trackedPages = 2 := by decide +kernel
  exact ⟨orderly, quiet, (accounts_agree orderly quiet).2.2.2, two⟩

end LockTable

end RowStore
