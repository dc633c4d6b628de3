import RowStore.Proofs.Lock.Checks
import RowStore.Proofs.Lock.Refusals

/-!
Gates: as long as whoever holds a page has one and the same page to itself, the gate, only one
transaction holds any. Nobody is in its way, nobody is refused for a deadlock, and all others wait
for it.
-/

set_option autoImplicit false

namespace RowStore.LockTable

/-! ### Refusals without interrupts -/

def Uninterrupted (table : LockTable) : Prop :=
  ∀ id, (table.session id).interrupted = false

theorem uninterrupted_empty : empty.Uninterrupted := by
  intro id
  simp [empty, session, Session.new]

private theorem Uninterrupted.insert {table next : LockTable} (calm : table.Uninterrupted)
    {id : SessionId} {session : Session}
    (sessions : next.sessions = table.sessions.insert id session)
    (quiet : session.interrupted = false) : next.Uninterrupted := by
  intro other
  unfold LockTable.session
  rw [sessions, session_insert]
  split
  · exact quiet
  · exact calm other

private theorem Uninterrupted.enroll {table : LockTable} (calm : table.Uninterrupted)
    (request : LockRequest) : (table.enroll request).Uninterrupted := by
  intro id
  rw [session_enroll]
  exact calm id

private theorem Uninterrupted.rouse {table : LockTable} (calm : table.Uninterrupted) (ticket : Nat)
    (sleeper : Sleeper) : (table.rouse ticket sleeper).Uninterrupted :=
  calm.insert rfl (calm sleeper.session)

private theorem Uninterrupted.check {table : LockTable} (calm : table.Uninterrupted) (ticket : Nat)
    (request : LockRequest) (session : SessionId) :
    (table.check ticket request session).1.Uninterrupted := by
  rcases table.check_cases ticket request session with ⟨_, grants⟩ |
    ⟨_, _, _, _, ⟨_, result⟩ | ⟨_, _, result⟩ | ⟨_, _, result⟩⟩
  · rw [grants]
    exact calm.insert rfl (calm session)
  · rw [result]
    exact calm
  · rw [result]
    exact calm.insert rfl rfl
  · rw [result]
    exact calm.insert rfl (calm session)

theorem Uninterrupted.acquire {table : LockTable} (calm : table.Uninterrupted) (ticket : Nat)
    (request : LockRequest) : (table.acquire ticket request).1.Uninterrupted := by
  rcases table.acquire_cases ticket request with ⟨_, same⟩ | ⟨sleeper, _, _, same⟩ |
    ⟨_, _, _, same⟩
  · rw [same]
    exact (calm.enroll request).check ticket request _
  · rw [same]
    exact (calm.rouse ticket sleeper).check ticket sleeper.request sleeper.session
  · rw [same]
    exact calm

private theorem Uninterrupted.release {table : LockTable} (calm : table.Uninterrupted)
    (transaction : TransactionId) (page : PageId) :
    (table.release transaction page).Uninterrupted := by
  unfold LockTable.release
  split
  · exact calm
  · intro id
    have before := calm id
    simp only [wake, session, Std.ExtTreeMap.getD_eq_getD_getElem?,
      Std.ExtTreeMap.getElem?_modify, Std.LawfulEqCmp.compare_eq_iff_eq] at before ⊢
    split
    · rename_i same
      subst same
      cases found : table.sessions[table.sessionId transaction]? with
      | none => rfl
      | some session =>
          rw [found] at before
          exact before
    · exact before

theorem Uninterrupted.releaseAll {table : LockTable} (calm : table.Uninterrupted)
    (transaction : TransactionId) : (table.releaseAll transaction).Uninterrupted := by
  have released (pages : List PageId) :
      (pages.foldl (fun current page => current.release transaction page) table).Uninterrupted := by
    induction pages generalizing table with
    | nil => exact calm
    | cons page rest ih => exact ih (calm.release transaction page)
  exact released (table.heldPages transaction)

theorem Uninterrupted.deadlock_of_refused {table : LockTable} (calm : table.Uninterrupted)
    {ticket : Nat} {request : LockRequest} {fault : Fault}
    (refused : (table.acquire ticket request).2 = .refused fault) :
    ∃ transaction page, fault = .deadlock transaction page := by
  have checked {prepared : LockTable} (calm : prepared.Uninterrupted) {asked : LockRequest}
      {session : SessionId} (refused : (prepared.check ticket asked session).2 = .refused fault) :
      ∃ transaction page, fault = .deadlock transaction page := by
    rcases prepared.check_cases ticket asked session with ⟨_, result⟩ |
      ⟨_, _, _, _, ⟨_, result⟩ | ⟨_, marked, _⟩ | ⟨_, _, result⟩⟩
    · rw [result] at refused
      cases refused
    · rw [result] at refused
      cases refused
      exact ⟨_, _, rfl⟩
    · rw [calm session] at marked
      cases marked
    · rw [result] at refused
      cases refused
  rcases table.acquire_cases ticket request with ⟨_, same⟩ | ⟨sleeper, _, _, same⟩ |
    ⟨_, _, _, same⟩
  · rw [same] at refused
    exact checked (calm.enroll request) refused
  · rw [same] at refused
    exact checked (calm.rouse ticket sleeper) refused
  · rw [same] at refused
    cases refused

/-! ### Requests with tickets of their own -/

section

variable {table : LockTable} {ticket : Nat} {request : LockRequest}

theorem Sound.opposed_of_asleep (sound : table.Sound) (again : ∀ sleeper : Sleeper,
      table.sleepers[ticket]? = some sleeper → sleeper.request = request)
    (asleep : (table.acquire ticket request).2 = .asleep) :
    ∃ holder, table.Opposes holder request := by
  rcases acquire_readies again with ⟨sleeper, found, unwoken, _⟩ |
    ⟨prepared, readies, checks⟩
  · obtain ⟨holder, _, opposes⟩ := sound.exists_wait found unwoken
    rw [again sleeper found] at opposes
    exact ⟨holder, opposes⟩
  · rw [checks] at asleep
    rcases prepared.check_cases ticket request (table.sessionOf ticket request) with
      ⟨_, result⟩ | ⟨opposed, _⟩
    · rw [result] at asleep
      cases asleep
    · rw [readies.holders] at opposed
      obtain ⟨holder, member⟩ := List.exists_mem_of_ne_nil _ opposed
      exact ⟨holder, opposes_iff_mem_opposing.mpr member⟩

/-- Whatever is held after a request was checked was held before, or is the page that the request
was granted. -/
theorem lockMode?_of_acquire (again : ∀ sleeper : Sleeper,
      table.sleepers[ticket]? = some sleeper → sleeper.request = request)
    {holder : TransactionId} {page : PageId} {held : LockMode}
    (holds : (table.acquire ticket request).1.lockMode? holder page = some held) :
    table.lockMode? holder page = some held ∨
      holder = request.transaction ∧ page = request.page ∧
        (table.acquire ticket request).1.Permits request := by
  rcases acquire_readies again with ⟨_, _, _, same⟩ | ⟨prepared, readies, checks⟩
  · rw [same] at holds
    exact Or.inl holds
  · have before : prepared.lockMode? holder page = table.lockMode? holder page :=
      congrArg (Holders.modeOf? · holder) (readies.holders page)
    rw [checks] at holds ⊢
    rcases prepared.check_cases ticket request (table.sessionOf ticket request) with
      ⟨unopposed, grants⟩ | ⟨_, _, _, _, ⟨_, result⟩ | ⟨_, _, result⟩ | ⟨_, _, result⟩⟩
    · by_cases own : holder = request.transaction ∧ page = request.page
      · refine Or.inr ⟨own.1, own.2, ?_⟩
        rw [grants]
        unfold Permits lockMode?
        rw [holders_grant, if_pos rfl]
        exact Holders.modeOf?_grant_self _ _ _
      · left
        rw [← before]
        unfold lockMode? at holds ⊢
        rw [grants, holders_grant] at holds
        split at holds
        · rename_i samePage
          rw [samePage] at unopposed
          have other := fun same => own ⟨same, samePage.symm⟩
          rw [Holders.modeOf?_grant_of_ne unopposed other] at holds
          exact holds
        · exact holds
    · rw [result] at holds
      exact Or.inl (before.symm.trans holds)
    · rw [result] at holds
      exact Or.inl (before.symm.trans holds)
    · rw [result] at holds
      exact Or.inl (before.symm.trans holds)

end

/-! ### Behind a gate -/

/-- Whoever holds a page has it to itself, and the gate too. All pages are of one table. -/
def Gated (table : LockTable) (gate : PageId) : Prop :=
  ∀ transaction page held, table.lockMode? transaction page = some held →
    held = .exclusive ∧ page.table = gate.table ∧
      table.lockMode? transaction gate = some .exclusive

section

variable {table : LockTable} {gate : PageId}

theorem Gated.eq (gated : table.Gated gate) (exclusive : table.IsExclusive)
    {left right : TransactionId} {leftPage rightPage : PageId} {leftMode rightMode : LockMode}
    (holdsLeft : table.lockMode? left leftPage = some leftMode)
    (holdsRight : table.lockMode? right rightPage = some rightMode) : left = right := by
  obtain ⟨_, _, alone⟩ := gated right rightPage rightMode holdsRight
  obtain ⟨_, _, also⟩ := gated left leftPage leftMode holdsLeft
  exact (exclusive gate).eq_of_modeOf? alone also

/-- Nobody is refused for a deadlock: the one that is waited for would have to wait itself. -/
theorem Gated.not_deadlock (gated : table.Gated gate) (exclusive : table.IsExclusive)
    (coherent : table.Coherent) {ticket : Nat} {request : LockRequest}
    (again : ∀ sleeper : Sleeper, table.sleepers[ticket]? = some sleeper →
      sleeper.request = request) (refused : TransactionId) (page : PageId) :
    (table.acquire ticket request).2 ≠ .refused (.deadlock refused page) := by
  intro deadlock
  obtain ⟨_, _, holder, opposes, path⟩ := coherent.circle_of_deadlock again deadlock
  obtain ⟨_, held, holds, _⟩ := opposes
  have waits : ∃ ahead, table.Awaits ahead holder := by
    cases path with
    | single awaits => exact ⟨_, awaits⟩
    | tail _ awaits => exact ⟨_, awaits⟩
  obtain ⟨ahead, asked, _, rfl, different, mode, holdsAhead, _⟩ := waits
  exact different (gated.eq exclusive holdsAhead holds)

theorem Gated.granted_or_asleep (gated : table.Gated gate) (exclusive : table.IsExclusive)
    (sound : table.Sound) (calm : table.Uninterrupted) {ticket : Nat} {request : LockRequest}
    (again : ∀ sleeper : Sleeper, table.sleepers[ticket]? = some sleeper →
      sleeper.request = request) :
    (table.acquire ticket request).2 = .granted ∨
      (table.acquire ticket request).2 = .asleep ∧ ∃ holder, table.Opposes holder request := by
  cases verdict : (table.acquire ticket request).2 with
  | granted => exact Or.inl rfl
  | asleep => exact Or.inr ⟨rfl, sound.opposed_of_asleep again verdict⟩
  | refused fault =>
      obtain ⟨refused, page, rfl⟩ := calm.deadlock_of_refused verdict
      exact absurd verdict (gated.not_deadlock exclusive sound.coherent again refused page)

/-- A request for the gate, or of one that has the gate, leaves everything behind the gate. -/
theorem Gated.acquire (gated : table.Gated gate) {ticket : Nat} {request : LockRequest}
    (again : ∀ sleeper : Sleeper, table.sleepers[ticket]? = some sleeper →
      sleeper.request = request) (alone : request.mode = .exclusive)
    (sameTable : request.page.table = gate.table)
    (behind : request.page = gate ∨
      table.lockMode? request.transaction gate = some .exclusive) :
    (table.acquire ticket request).1.Gated gate := by
  have stays {transaction : TransactionId}
      (holds : table.lockMode? transaction gate = some .exclusive) :
      (table.acquire ticket request).1.lockMode? transaction gate = some .exclusive := by
    obtain ⟨kept, keeps, covers⟩ := lockMode?_acquire_covers ticket request holds
    rw [keeps, covers rfl]
  intro transaction page held holds
  rcases lockMode?_of_acquire again holds with before | ⟨rfl, rfl, mode, permits, covers⟩
  · obtain ⟨own, inTable, hasGate⟩ := gated transaction page held before
    exact ⟨own, inTable, stays hasGate⟩
  · have exclusive := covers alone
    subst exclusive
    rw [permits] at holds
    refine ⟨(Option.some.inj holds).symm, sameTable, ?_⟩
    rcases behind with atGate | hasGate
    · rw [← atGate]
      exact permits
    · exact stays hasGate

theorem Gated.releaseAll (gated : table.Gated gate) (accounted : table.Accounted)
    (transaction : TransactionId) : (table.releaseAll transaction).Gated gate := by
  intro other page held holds
  have different : other ≠ transaction := by
    rintro rfl
    rw [accounted.lockMode?_releaseAll_self] at holds
    cases holds
  have kept (onPage : PageId) : (table.releaseAll transaction).lockMode? other onPage =
      table.lockMode? other onPage := by
    rw [lockMode?_releaseAll, if_neg (fun both => different both.1)]
  rw [kept] at holds ⊢
  exact gated other page held holds

end

end RowStore.LockTable
