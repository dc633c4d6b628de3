import RowStore.Proofs.Lock.Run

/-!
Checks: every acquisition is of one request, the sleeper's if somebody sleeps under the ticket, and
comes to one check of it, in a table made ready for that, unless the sleeper was not woken.
-/

set_option autoImplicit false

namespace RowStore.LockTable

/-- The session that a request is checked in: that in which it fell asleep, or else the one that its
transaction is in. -/
def sessionOf (table : LockTable) (ticket : Nat) (request : LockRequest) : SessionId :=
  match table.sleepers[ticket]? with
  | some sleeper => sleeper.session
  | none => table.sessionId request.transaction

/-- The table has been made ready for a check, with nothing changed that anybody can tell but that
the request is awake. -/
structure Readies (table prepared : LockTable) (ticket : Nat) (request : LockRequest) : Prop
    extends table.Prepares prepared ticket (table.sessionOf ticket request) where
  pages : request.page ∈ table.pages → prepared.pages = table.pages
  sessions : ∀ id, id ≠ table.sessionOf ticket request →
    prepared.sessions[id]? = table.sessions[id]?
  interrupted : ∀ id, (prepared.session id).interrupted = (table.session id).interrupted

theorem readies_enroll {table : LockTable} {ticket : Nat} (unused : table.sleepers[ticket]? = none)
    (request : LockRequest) : table.Readies (table.enroll request) ticket request := by
  have current : table.sessionOf ticket request = table.sessionId request.transaction := by
    simp only [sessionOf, unused]
  refine ⟨?_, ?_, ?_, ?_⟩
  · rw [current]
    exact prepares_enroll unused request
  · intro tracked
    apply Std.ExtTreeMap.ext_getElem?
    intro page
    simp only [enroll, Std.ExtTreeMap.getElem?_insertIfNew, Std.LawfulEqCmp.compare_eq_iff_eq]
    rw [if_neg]
    rintro ⟨rfl, untracked⟩
    exact untracked tracked
  · intro id different
    rw [current] at different
    simp only [enroll, Std.ExtTreeMap.getElem?_insertIfNew, Std.LawfulEqCmp.compare_eq_iff_eq]
    exact if_neg (fun both => different both.1.symm)
  · intro id
    rw [table.session_enroll request]

theorem readies_rouse {table : LockTable} {ticket : Nat} {sleeper : Sleeper}
    (found : table.sleepers[ticket]? = some sleeper) :
    table.Readies (table.rouse ticket sleeper) ticket sleeper.request := by
  have own : table.sessionOf ticket sleeper.request = sleeper.session := by
    simp only [sessionOf, found]
  refine ⟨?_, fun _ => rfl, ?_, ?_⟩
  · rw [own]
    exact table.prepares_rouse ticket sleeper
  · intro id different
    rw [own] at different
    simp only [rouse, Std.ExtTreeMap.getElem?_insert, Std.LawfulEqCmp.compare_eq_iff_eq]
    exact if_neg (Ne.symm different)
  · intro id
    change ((table.sessions.insert sleeper.session _).getD id Session.new).interrupted = _
    rw [session_insert]
    split
    · rename_i same
      rw [← same]
      rfl
    · rfl

theorem exists_asked (table : LockTable) (ticket : Nat) (request : LockRequest) :
    ∃ asked, (∀ sleeper : Sleeper, table.sleepers[ticket]? = some sleeper →
        sleeper.request = asked) ∧
      table.acquire ticket request = table.acquire ticket asked := by
  cases found : table.sleepers[ticket]? with
  | none =>
      refine ⟨request, ?_, rfl⟩
      intro sleeper impossible
      cases impossible
  | some sleeper =>
      refine ⟨sleeper.request, ?_, ?_⟩
      · intro again same
        cases same
        rfl
      · unfold acquire
        rw [found]

section

variable {table : LockTable} {ticket : Nat} {request : LockRequest}

/-- An acquisition leaves all as it is, for a sleeper that nothing woke, or checks the request in a
table that is ready for it. -/
theorem acquire_readies (again : ∀ sleeper : Sleeper,
      table.sleepers[ticket]? = some sleeper → sleeper.request = request) :
    (∃ sleeper : Sleeper, table.sleepers[ticket]? = some sleeper ∧ sleeper.woken = false ∧
      table.acquire ticket request = (table, .asleep)) ∨
    ∃ prepared, table.Readies prepared ticket request ∧
      table.acquire ticket request =
        prepared.check ticket request (table.sessionOf ticket request) := by
  rcases table.acquire_cases ticket request with ⟨unused, same⟩ | ⟨sleeper, found, _, same⟩ | asleep
  · right
    refine ⟨_, readies_enroll unused request, ?_⟩
    simp only [same, sessionOf, unused]
  · right
    have readies := readies_rouse found
    rw [again sleeper found] at readies
    refine ⟨_, readies, ?_⟩
    simp only [same, sessionOf, found, again sleeper found]
  · exact Or.inl asleep

end

end RowStore.LockTable
