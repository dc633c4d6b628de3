import RowStore.Proofs.WaitGraph.Run

/-!
Waiters: the waits of a graph as a list of waiters for each holder and page, where the last waiter
takes the place of one that stops waiting. No such list ever has a waiter twice, and together the
lists are the set of waits.
-/

set_option autoImplicit false

namespace RowStore

/-- The waiters behind each holder on each page, in the order in which they are listed. -/
def Waiters := TransactionId → PageId → List TransactionId

namespace Waiters

/-- The list without one waiter, whose place the last one takes. -/
def strike (waiter : TransactionId) (listed : List TransactionId) : List TransactionId :=
  match listed.idxOf? waiter with
  | some place => (listed.set place (listed.getLast?.getD waiter)).dropLast
  | none => listed

/-- The holders that do not have the waiter on their list for the page yet, each once. -/
def unlisted (waiters : Waiters) (waiter : TransactionId) (page : PageId)
    (holders : List TransactionId) : List TransactionId :=
  (holders.filter (fun holder =>
    holder != waiter && !(waiters holder page).contains waiter)).eraseDups

/-- What an action on the graph does to the lists. New waits are listed if the graph takes them. -/
def perform (waiters : Waiters) (graph : WaitGraph) : WaitAction → Waiters
  | .addWaits waiter page holders => fun holder onPage =>
      if (graph.addWaits waiter page holders).2 = true ∧ onPage = page ∧
          holder ∈ waiters.unlisted waiter page holders then
        waiters holder onPage ++ [waiter]
      else waiters holder onPage
  | .release holder page => fun other onPage =>
      if other = holder ∧ onPage = page then [] else waiters other onPage
  | .resolve waiter page => fun holder onPage =>
      if onPage = page then strike waiter (waiters holder onPage) else waiters holder onPage
  | .remove transaction => fun holder onPage =>
      if holder = transaction then [] else (waiters holder onPage).filter (· != transaction)

def run (actions : List WaitAction) : Waiters × WaitGraph :=
  actions.foldl (fun state action => (state.1.perform state.2 action, state.2.perform action))
    (fun _ _ => [], WaitGraph.empty)

/-- The waits of the graph are those that are listed, each once. -/
structure Lists (waiters : Waiters) (graph : WaitGraph) : Prop where
  nodup : ∀ holder page, (waiters holder page).Nodup
  mem_iff : ∀ holder page waiter,
    waiter ∈ waiters holder page ↔ ⟨holder, page, waiter⟩ ∈ graph.waits

/-! ### One action -/

private theorem idxOf?_append_cons {front : List TransactionId} {waiter : TransactionId}
    (absent : waiter ∉ front) (back : List TransactionId) :
    (front ++ waiter :: back).idxOf? waiter = some front.length := by
  refine List.idxOf?_eq_some_iff.mpr ⟨by simp, by simp, ?_⟩
  intro before earlier same
  rw [List.getElem_append_left earlier] at same
  exact absent (same ▸ List.getElem_mem earlier)

theorem strike_perm (waiter : TransactionId) (listed : List TransactionId) :
    (strike waiter listed).Perm (listed.erase waiter) := by
  by_cases member : waiter ∈ listed
  · obtain ⟨front, back, rfl, absent⟩ := List.eq_append_cons_of_mem member
    unfold strike
    rw [List.erase_append_right _ absent, List.erase_cons_head, idxOf?_append_cons absent]
    dsimp only
    rw [List.set_append_right _ _ (Nat.le_refl _), Nat.sub_self, List.set_cons_zero]
    rcases List.eq_nil_or_concat back with rfl | ⟨middle, last, rfl⟩
    · simp
    · have shape (first : TransactionId) :
          front ++ first :: middle.concat last = (front ++ first :: middle) ++ [last] := by simp
      rw [shape, shape, List.getLast?_concat, Option.getD_some, List.dropLast_concat,
        List.concat_eq_append]
      exact (List.perm_append_singleton last middle).symm.append_left front
  · unfold strike
    rw [List.idxOf?_eq_none_iff.mpr member, List.erase_of_not_mem member]

private theorem Lists.mem_unlisted {waiters : Waiters} {graph : WaitGraph}
    (lists : waiters.Lists graph) {waiter holder : TransactionId} {page : PageId}
    {holders : List TransactionId} :
    holder ∈ waiters.unlisted waiter page holders ↔
      holder ∈ holders ∧ holder ≠ waiter ∧ ⟨holder, page, waiter⟩ ∉ graph.waits := by
  rw [← lists.mem_iff]
  simp [unlisted, List.mem_eraseDups]

private theorem Lists.addWaits {waiters : Waiters} {graph : WaitGraph}
    (lists : waiters.Lists graph) (consistent : graph.Consistent) (waiter : TransactionId)
    (page : PageId) (holders : List TransactionId) :
    (waiters.perform graph (.addWaits waiter page holders)).Lists
      (graph.perform (.addWaits waiter page holders)) := by
  cases outcome : graph.addWaits waiter page holders with
  | mk next taken =>
      have performed : graph.perform (.addWaits waiter page holders) = next :=
        congrArg Prod.fst outcome
      rw [performed]
      cases taken with
      | false =>
          have unchanged : waiters.perform graph (.addWaits waiter page holders) = waiters := by
            funext holder onPage
            unfold perform
            dsimp only
            rw [outcome, if_neg (fun taken => Bool.noConfusion taken.1)]
          rw [unchanged]
          refine ⟨lists.nodup, ?_⟩
          rw [(consistent.addWaits_false outcome).2]
          exact lists.mem_iff
      | true =>
          have waits := (consistent.addWaits_true outcome).2
          constructor
          · intro holder onPage
            unfold perform
            dsimp only
            split
            · rename_i fresh
              obtain ⟨_, rfl, unlisted⟩ := fresh
              have absent := mt (lists.mem_iff _ _ _).mp (lists.mem_unlisted.mp unlisted).2.2
              rw [← List.concat_eq_append, List.nodup_concat]
              exact ⟨absent, lists.nodup holder onPage⟩
            · exact lists.nodup holder onPage
          · intro holder onPage other
            rw [waits, ← lists.mem_iff]
            unfold perform
            dsimp only
            split
            · rename_i fresh
              obtain ⟨_, rfl, unlisted⟩ := fresh
              obtain ⟨named, apart, _⟩ := lists.mem_unlisted.mp unlisted
              simp [named, apart]
            · rename_i old
              refine ⟨.inl, ?_⟩
              rintro (listed | ⟨rfl, rfl, named, apart⟩)
              · exact listed
              · by_contra absent
                refine old ⟨congrArg Prod.snd outcome, rfl, lists.mem_unlisted.mpr ?_⟩
                exact ⟨named, apart, mt (lists.mem_iff _ _ _).mpr absent⟩

theorem Lists.perform {waiters : Waiters} {graph : WaitGraph} (lists : waiters.Lists graph)
    (consistent : graph.Consistent) (action : WaitAction) :
    (waiters.perform graph action).Lists (graph.perform action) := by
  cases action with
  | addWaits waiter page holders => exact lists.addWaits consistent waiter page holders
  | release holder page =>
      constructor
      · intro other onPage
        unfold Waiters.perform
        dsimp only
        split
        · exact List.nodup_nil
        · exact lists.nodup other onPage
      · intro other onPage waiter
        change _ ↔ _ ∈ (graph.release holder page).waits
        rw [WaitGraph.mem_waits_release, ← lists.mem_iff]
        unfold Waiters.perform
        dsimp only
        split
        · rename_i released
          simp [released]
        · rename_i kept
          simp [kept]
  | resolve waiter page =>
      have struck (holder : TransactionId) (onPage : PageId) :=
        strike_perm waiter (waiters holder onPage)
      constructor
      · intro holder onPage
        unfold Waiters.perform
        dsimp only
        split
        · exact (struck holder onPage).nodup_iff.mpr ((lists.nodup holder onPage).erase waiter)
        · exact lists.nodup holder onPage
      · intro holder onPage other
        change _ ↔ _ ∈ (graph.resolve waiter page).waits
        rw [WaitGraph.mem_waits_resolve, ← lists.mem_iff]
        unfold Waiters.perform
        dsimp only
        split
        · rename_i same
          rw [(struck holder onPage).mem_iff, (lists.nodup holder onPage).mem_erase_iff]
          simp [same, and_comm]
        · rename_i apart
          simp [apart]
  | remove transaction =>
      constructor
      · intro holder onPage
        unfold Waiters.perform
        dsimp only
        split
        · exact List.nodup_nil
        · exact (lists.nodup holder onPage).filter _
      · intro holder onPage waiter
        change _ ↔ _ ∈ (graph.remove transaction).waits
        rw [WaitGraph.mem_waits_remove, ← lists.mem_iff]
        unfold Waiters.perform
        dsimp only
        split
        · rename_i gone
          simp [gone]
        · rename_i other
          simp [other]

/-! ### Runs -/

/-- Whatever is asked of a graph, no list has a waiter twice, and the lists are the waits. -/
theorem lists_run (actions : List WaitAction) :
    (run actions).2 = WaitGraph.run actions ∧ (run actions).1.Lists (WaitGraph.run actions) := by
  induction actions using List.reverseRecOn with
  | nil =>
      refine ⟨rfl, fun _ _ => List.nodup_nil, ?_⟩
      intro holder page waiter
      change waiter ∈ [] ↔ _ ∈ WaitGraph.empty.waits
      simp [WaitGraph.empty]
  | append_singleton earlier action ih =>
      obtain ⟨graph, lists⟩ := ih
      have next : run (earlier ++ [action]) =
          ((run earlier).1.perform (run earlier).2 action, (run earlier).2.perform action) :=
        List.foldl_append
      have performed : WaitGraph.run (earlier ++ [action]) =
          (WaitGraph.run earlier).perform action := List.foldl_append
      rw [next, performed, graph]
      exact ⟨rfl, lists.perform (WaitGraph.consistent_run earlier) action⟩

end Waiters

end RowStore
