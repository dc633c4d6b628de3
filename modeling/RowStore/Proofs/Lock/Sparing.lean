import RowStore.Proofs.Lock.Checks
import RowStore.Proofs.Lock.Footing

/-!
Sparing: what a check of a request leaves as it was. Whatever becomes of the request, the locks, the
sessions and the waits of all other transactions stay, and a request that is not granted moves no
lock at all.
-/

set_option autoImplicit false

namespace RowStore.LockTable

/-! ### What the others keep -/

/-- From one table to the next nothing has changed for anybody but the transaction of the request.
Whom the graph came to know is that transaction, or in the way of the request. -/
structure Spares (table next : LockTable) (request : LockRequest) : Prop where
  ended : next.ended = table.ended
  lockMode? : ∀ other page, other ≠ request.transaction →
    next.lockMode? other page = table.lockMode? other page
  sessions : ∀ id : SessionId, id.owner ≠ request.transaction →
    next.sessions[id]? = table.sessions[id]?
  waits : ∀ wait : Wait, wait.waiter ≠ request.transaction →
    (wait ∈ next.graph.waits ↔ wait ∈ table.graph.waits)
  known : ∀ other, table.graph.contains other = true → next.graph.contains other = true
  met : ∀ other, next.graph.contains other = true → table.graph.contains other = true ∨
    other = request.transaction ∨ table.Opposes other request

theorem Spares.refl (table : LockTable) (request : LockRequest) : table.Spares table request :=
  ⟨rfl, fun _ _ _ => rfl, fun _ _ => rfl, fun _ _ => Iff.rfl, fun _ known => known,
    fun _ known => Or.inl known⟩

section

variable {table next : LockTable} {request : LockRequest}

theorem Spares.session? (spares : table.Spares next request) {other : TransactionId}
    (different : other ≠ request.transaction) : next.session? other = table.session? other := by
  have sameId : next.sessionId other = table.sessionId other := by
    simp only [sessionId, spares.ended]
  rw [LockTable.session?, sameId, spares.sessions _ different, LockTable.session?]

theorem Spares.getElem?_edges (spares : table.Spares next request)
    (consistent : table.graph.Consistent) (nextConsistent : next.graph.Consistent)
    {edge : WaitEdge} (different : edge.waiter ≠ request.transaction) :
    next.graph.edges[edge]? = table.graph.edges[edge]? := by
  apply consistent.getElem?_edges_congr nextConsistent
  rintro wait rfl
  exact spares.waits wait different

private theorem Spares.of_insert (table next : LockTable) {graph : WaitGraph} {accepted : Bool}
    {session : SessionId} (consistent : table.graph.Consistent)
    (mine : session.owner = request.transaction)
    (added : table.graph.addWaits request.transaction request.page
      ((table.holders request.page).opposing request.transaction request.mode) =
        (graph, accepted))
    (ended : next.ended = table.ended) (pages : next.pages = table.pages)
    (sessions : next.sessions = table.sessions ∨
      ∃ current, next.sessions = table.sessions.insert session current)
    (ofGraph : next.graph = graph ∨
      next.graph = graph.resolve request.transaction request.page) :
    table.Spares next request := by
  have waits (wait : Wait) (different : wait.waiter ≠ request.transaction) :
      wait ∈ graph.waits ↔ wait ∈ table.graph.waits := by
    cases accepted with
    | false => rw [(consistent.addWaits_false added).2]
    | true =>
        rw [(consistent.addWaits_true added).2]
        exact or_iff_left (fun own => different own.1)
  have contains (other : TransactionId) :
      next.graph.contains other = graph.contains other := by
    rcases ofGraph with same | same
    · rw [same]
    · rw [same, WaitGraph.contains_resolve]
  refine ⟨ended, ?_, ?_, ?_, ?_, ?_⟩
  · intro other page _
    unfold LockTable.lockMode? holders
    rw [pages]
  · intro id different
    rcases sessions with same | ⟨current, same⟩
    · rw [same]
    · rw [same, Std.ExtTreeMap.getElem?_insert, if_neg]
      rw [Std.LawfulEqCmp.compare_eq_iff_eq]
      rintro rfl
      exact different mine
  · intro wait different
    rcases ofGraph with same | same
    · rw [same, waits wait different]
    · rw [same, WaitGraph.mem_waits_resolve, waits wait different]
      exact and_iff_left (fun own => different own.1)
  · intro other known
    have sameGraph : (table.graph.addWaits request.transaction request.page
        ((table.holders request.page).opposing request.transaction request.mode)).1 = graph :=
      congrArg Prod.fst added
    rw [contains, ← sameGraph, WaitGraph.contains_addWaits]
    exact Or.inr (Or.inr known)
  · intro other known
    rw [contains] at known
    rcases WaitGraph.contains_of_addWaits added known with before | own | member
    · exact Or.inl before
    · exact Or.inr (Or.inl own)
    · exact Or.inr (Or.inr (opposes_iff_mem_opposing.mpr member))

theorem spares_check (consistent : table.graph.Consistent) (ticket : Nat) {session : SessionId}
    (mine : session.owner = request.transaction) :
    table.Spares (table.check ticket request session).1 request := by
  rcases table.check_cases ticket request session with
    ⟨unopposed, result⟩ | ⟨_, graph, accepted, added, verdicts⟩
  · rw [result]
    refine ⟨rfl, ?_, ?_, ?_, ?_, ?_⟩
    · intro other page different
      unfold LockTable.lockMode?
      rw [holders_grant]
      split
      · rename_i same
        rw [same] at unopposed
        exact Holders.modeOf?_grant_of_ne unopposed different
      · rfl
    · intro id different
      simp only [grant, Std.ExtTreeMap.getElem?_insert, Std.LawfulEqCmp.compare_eq_iff_eq]
      rw [if_neg]
      rintro rfl
      exact different mine
    · intro wait different
      refine WaitGraph.mem_waits_resolve.trans ?_
      exact and_iff_left (fun own => different own.1)
    · intro other known
      exact (table.graph.contains_resolve _ _ other).trans known
    · intro other known
      exact Or.inl ((table.graph.contains_resolve _ _ other).symm.trans known)
  · rcases verdicts with ⟨_, result⟩ | ⟨_, _, result⟩ | ⟨_, _, result⟩
    · rw [result]
      exact Spares.of_insert table _ consistent mine added rfl rfl (Or.inl rfl) (Or.inr rfl)
    · rw [result]
      exact Spares.of_insert table _ consistent mine added rfl rfl (Or.inr ⟨_, rfl⟩) (Or.inr rfl)
    · rw [result]
      exact Spares.of_insert table _ consistent mine added rfl rfl (Or.inr ⟨_, rfl⟩) (Or.inl rfl)

theorem Grounded.owner_sessionOf (grounded : table.Grounded) {ticket : Nat}
    (again : ∀ sleeper : Sleeper, table.sleepers[ticket]? = some sleeper →
      sleeper.request = request) :
    (table.sessionOf ticket request).owner = request.transaction := by
  unfold sessionOf
  split
  · rename_i sleeper found
    rw [(grounded.owned ticket sleeper found).1, again sleeper found]
  · rfl

theorem Grounded.spares (grounded : table.Grounded) {ticket : Nat} (again : ∀ sleeper : Sleeper,
      table.sleepers[ticket]? = some sleeper → sleeper.request = request) :
    table.Spares (table.acquire ticket request).1 request := by
  have mine := grounded.owner_sessionOf again
  rcases acquire_readies again with ⟨_, _, _, same⟩ | ⟨prepared, readies, same⟩
  · rw [same]
    exact Spares.refl table request
  · have modes (other : TransactionId) (page : PageId) :
        prepared.lockMode? other page = table.lockMode? other page :=
      congrArg (Holders.modeOf? · other) (readies.holders page)
    have consistent : prepared.graph.Consistent := by
      rw [readies.graph]
      exact grounded.consistent
    have checked := spares_check consistent ticket mine
    rw [same]
    refine ⟨checked.ended.trans readies.ended, ?_, ?_, ?_, ?_, ?_⟩
    · intro other page different
      rw [checked.lockMode? other page different, modes]
    · intro id different
      rw [checked.sessions id different, readies.sessions]
      rintro rfl
      exact different mine
    · intro wait different
      rw [checked.waits wait different, readies.graph]
    · intro other known
      apply checked.known
      rw [readies.graph]
      exact known
    · intro other known
      have met := checked.met other known
      unfold Opposes at met ⊢
      rw [readies.graph, modes] at met
      exact met

/-! ### What a request that is not granted leaves -/

theorem heldPages_eq (table : LockTable) (transaction : TransactionId) :
    table.heldPages transaction = (table.current transaction).held.toList := by
  rw [current_eq, heldPages]
  cases table.session? transaction with
  | none => rfl
  | some session => rfl

structure Withholds (table next : LockTable) : Prop where
  pages : next.pages = table.pages
  heldPages : ∀ transaction, next.heldPages transaction = table.heldPages transaction

theorem acquire_withholds {ticket : Nat} (again : ∀ sleeper : Sleeper,
      table.sleepers[ticket]? = some sleeper → sleeper.request = request)
    (notGranted : (table.acquire ticket request).2 ≠ .granted) :
    table.Withholds (table.acquire ticket request).1 := by
  rcases acquire_readies again with ⟨_, _, _, same⟩ | ⟨prepared, readies, same⟩
  · rw [same]
    exact ⟨rfl, fun _ => rfl⟩
  · have left (next : LockTable) (tracked : request.page ∈ table.pages)
        (pages : next.pages = prepared.pages) (ended : next.ended = prepared.ended)
        (held : ∀ id, (next.session id).held = (prepared.session id).held) :
        table.Withholds next := by
      refine ⟨pages.trans (readies.pages tracked), ?_⟩
      intro transaction
      have sameId : next.sessionId transaction = table.sessionId transaction := by
        simp only [sessionId, ended, readies.ended]
      rw [heldPages_eq, heldPages_eq, current, current, sameId, held, readies.held]
    have rewritten {session : SessionId} {current : Session}
        (same : current.held = (prepared.session session).held) (id : SessionId) :
        ((prepared.sessions.insert session current).getD id Session.new).held =
          (prepared.session id).held := by
      rw [session_insert]
      split
      · rename_i sameId
        rw [same, sameId]
      · rfl
    rw [same] at notGranted ⊢
    rcases prepared.check_cases ticket request (table.sessionOf ticket request) with
      ⟨_, result⟩ | ⟨opposed, graph, accepted, _, verdicts⟩
    · rw [result] at notGranted
      exact absurd rfl notGranted
    · have tracked : request.page ∈ table.pages := by
        obtain ⟨holder, member⟩ := List.exists_mem_of_ne_nil _ opposed
        rw [readies.holders] at member
        exact (opposes_iff_mem_opposing.mpr member).held.mem_pages
      rcases verdicts with ⟨_, result⟩ | ⟨_, _, result⟩ | ⟨_, _, result⟩
      · rw [result]
        exact left _ tracked rfl rfl (fun _ => rfl)
      · rw [result]
        exact left _ tracked rfl rfl (rewritten rfl)
      · rw [result]
        exact left _ tracked rfl rfl (rewritten rfl)

end

end RowStore.LockTable
