import RowStore.Proofs.Lock.Ownership

/-!
Undisturbed requests: what nobody stands in the way of is granted at once. A transaction that is
alone is granted whatever it asks for, and it stays alone.
-/

set_option autoImplicit false

namespace RowStore.LockTable

structure Grants (table next : LockTable) (request : LockRequest) : Prop where
  holders : ∀ page, next.holders page =
    if request.page = page then (table.holders page).grant request.transaction request.mode
    else table.holders page
  sleepers : next.sleepers = table.sleepers

theorem acquire_of_unopposed {table : LockTable} {ticket : Nat}
    (unused : table.sleepers[ticket]? = none) (request : LockRequest)
    (unopposed : (table.holders request.page).opposing request.transaction request.mode = []) :
    ∃ next, table.acquire ticket request = (next, .granted) ∧ table.Grants next request := by
  refine ⟨(table.enroll request).grant request (table.sessionId request.transaction), ?_, ?_, rfl⟩
  · rw [← table.holders_enroll request] at unopposed
    unfold acquire check
    rw [unused]
    dsimp only
    rw [unopposed]
  · intro page
    rw [holders_grant, holders_enroll]

/-- A new request that comes to sleep has somebody in its way, and sleeps on when it is made again. -/
theorem acquire_of_asleep {table next : LockTable} {ticket : Nat} {request : LockRequest}
    (unused : table.sleepers[ticket]? = none)
    (asleep : table.acquire ticket request = (next, .asleep)) :
    (∃ holder, next.Opposes holder request) ∧ next.acquire ticket request = (next, .asleep) := by
  rcases table.acquire_cases ticket request with ⟨_, checks⟩ | ⟨_, found, _⟩ | ⟨_, found, _⟩
  · rw [checks] at asleep
    rcases (table.enroll request).check_cases ticket request
      (table.sessionId request.transaction) with ⟨_, result⟩ |
      ⟨opposed, _, _, _, ⟨_, result⟩ | ⟨_, _, result⟩ | ⟨_, _, result⟩⟩
    · rw [result] at asleep
      cases asleep
    · rw [result] at asleep
      cases asleep
    · rw [result] at asleep
      cases asleep
    · rw [result] at asleep
      cases asleep
      obtain ⟨holder, member⟩ := List.exists_mem_of_ne_nil _ opposed
      refine ⟨⟨holder, opposes_iff_mem_opposing.mpr member⟩, ?_⟩
      unfold acquire
      dsimp only
      rw [Std.ExtTreeMap.getElem?_insert_self]
      rfl
  · cases unused.symm.trans found
  · cases unused.symm.trans found

theorem Grants.exclusiveHolder? {table next : LockTable} {request : LockRequest}
    (grants : table.Grants next request) (page : PageId) :
    next.exclusiveHolder? page =
      if request.page = page ∧ request.mode = .exclusive then some request.transaction
      else table.exclusiveHolder? page := by
  unfold LockTable.exclusiveHolder?
  rw [grants.holders]
  cases mode : request.mode with
  | exclusive =>
      by_cases same : request.page = page
      · simp [same, Holders.grant]
      · simp [same]
  | shared =>
      by_cases same : request.page = page
      · simp only [same, if_true, reduceCtorEq, and_false, if_false, Holders.grant]
        split <;> rfl
      · simp [same]

structure Alone (table : LockTable) (transaction : TransactionId) : Prop where
  others : ∀ other page, other ≠ transaction → table.lockMode? other page = none
  awake : ∀ ticket : Nat, table.sleepers[ticket]? = none

theorem Alone.acquire {table : LockTable} {transaction : TransactionId}
    (alone : table.Alone transaction) (ticket : Nat) {request : LockRequest}
    (own : request.transaction = transaction) :
    ∃ next, table.acquire ticket request = (next, .granted) ∧ table.Grants next request ∧
      next.Alone transaction := by
  have unopposed : (table.holders request.page).opposing request.transaction request.mode = [] := by
    apply Holders.opposing_eq_nil.mpr
    intro holder held different holds
    rw [own] at different
    have free : (table.holders request.page).modeOf? holder = none :=
      alone.others holder request.page different
    rw [free] at holds
    cases holds
  obtain ⟨next, acquires, grants⟩ := acquire_of_unopposed (alone.awake ticket) request unopposed
  refine ⟨next, acquires, grants, ?_, ?_⟩
  · intro other page different
    unfold lockMode?
    rw [grants.holders]
    split
    · rename_i same
      subst same
      rw [← own] at different
      rw [Holders.modeOf?_grant_of_ne unopposed different]
      exact alone.others other _ (by rwa [← own])
    · exact alone.others other page different
  · intro other
    rw [grants.sleepers]
    exact alone.awake other

end RowStore.LockTable
