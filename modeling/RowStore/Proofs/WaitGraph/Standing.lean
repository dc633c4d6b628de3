import RowStore.Proofs.WaitGraph.Upkeep

/-!
Standing: whom a wait graph knows, and what it counts. Waits that end make nobody unknown, new waits
make known whom they name, and what a consistent graph counts for an edge or for a transaction
depends on nothing but the waits there.
-/

set_option autoImplicit false

namespace RowStore.WaitGraph

/-! ### Who is known -/

theorem contains_eq_true {graph : WaitGraph} {transaction : TransactionId} :
    graph.contains transaction = true ↔ transaction ∈ graph.degrees :=
  Std.ExtTreeMap.mem_iff_contains.symm

theorem contains_unlink (graph : WaitGraph) (edge : WaitEdge) (transaction : TransactionId) :
    (graph.unlink edge).contains transaction = graph.contains transaction := by
  unfold unlink
  split
  · rfl
  · exact Std.ExtTreeMap.contains_modify

theorem contains_endWaits (graph : WaitGraph) (picked : Wait → Bool)
    (transaction : TransactionId) :
    (graph.endWaits picked).contains transaction = graph.contains transaction := by
  have unlinked (ended : List Wait) :
      (ended.foldl (fun current wait => current.unlink wait.edge) graph).contains transaction =
        graph.contains transaction := by
    induction ended using List.reverseRecOn with
    | nil => rfl
    | append_singleton earlier wait ih =>
        rw [List.foldl_append, List.foldl_cons, List.foldl_nil, contains_unlink, ih]
  exact unlinked _

theorem contains_release (graph : WaitGraph) (holder : TransactionId) (page : PageId)
    (transaction : TransactionId) :
    (graph.release holder page).contains transaction = graph.contains transaction :=
  graph.contains_endWaits _ transaction

theorem contains_resolve (graph : WaitGraph) (waiter : TransactionId) (page : PageId)
    (transaction : TransactionId) :
    (graph.resolve waiter page).contains transaction = graph.contains transaction :=
  graph.contains_endWaits _ transaction

theorem contains_remove (graph : WaitGraph) (removed transaction : TransactionId) :
    (graph.remove removed).contains transaction =
      (transaction != removed && graph.contains transaction) := by
  have lightened (entries : List (TransactionId × Nat)) :
      (entries.foldl (fun degrees entry => degrees.modify entry.1 (· - entry.2))
        graph.degrees).contains transaction = graph.contains transaction := by
    induction entries using List.reverseRecOn with
    | nil => rfl
    | append_singleton earlier entry ih =>
        rw [List.foldl_append, List.foldl_cons, List.foldl_nil, Std.ExtTreeMap.contains_modify, ih]
  have erased : (graph.remove removed).contains transaction =
      (!(compare removed transaction == .eq) && graph.contains transaction) := by
    rw [← lightened (graph.waitersOf removed)]
    exact Std.ExtTreeMap.contains_erase
  rw [erased]
  by_cases same : transaction = removed
  · simp [same]
  · have apart : compare removed transaction ≠ .eq := by simpa using Ne.symm same
    rw [beq_eq_false_iff_ne.mpr apart, bne_iff_ne.mpr same, Bool.not_false]

/-- Asking for new waits makes known the waiter and the holders that are new to it. -/
theorem contains_addWaits {graph : WaitGraph} {waiter transaction : TransactionId} {page : PageId}
    {holders : List TransactionId} :
    (graph.addWaits waiter page holders).1.contains transaction = true ↔
      transaction ∈ graph.newHolders waiter page holders ∨ transaction = waiter ∨
        graph.contains transaction = true := by
  have met : waiter ∈ ((graph.newHolders waiter page holders).foldl meet
      (graph.meet waiter)).degrees := mem_degrees_introduced.mpr (.inr (.inl rfl))
  rw [contains_eq_true, contains_eq_true, ← mem_degrees_introduced]
  simp only [addWaits]
  split
  · rfl
  · split
    · exact mem_degrees_linked met _
    · exact (mem_degrees_unlinked _).trans (mem_degrees_linked met _)

theorem contains_of_addWaits {graph next : WaitGraph} {waiter transaction : TransactionId}
    {page : PageId} {holders : List TransactionId} {accepted : Bool}
    (added : graph.addWaits waiter page holders = (next, accepted))
    (known : next.contains transaction = true) :
    graph.contains transaction = true ∨ transaction = waiter ∨ transaction ∈ holders := by
  have sameGraph : (graph.addWaits waiter page holders).1 = next := congrArg Prod.fst added
  rw [← sameGraph, contains_addWaits] at known
  rcases known with fresh | same | before
  · exact Or.inr (Or.inr (mem_newHolders.mp fresh).1)
  · exact Or.inr (Or.inl same)
  · exact Or.inl before

/-! ### What is counted -/

theorem Consistent.getElem?_edges_congr {graph next : WaitGraph} (consistent : graph.Consistent)
    (nextConsistent : next.Consistent) {edge : WaitEdge}
    (same : ∀ wait : Wait, wait.edge = edge → (wait ∈ next.waits ↔ wait ∈ graph.waits)) :
    next.edges[edge]? = graph.edges[edge]? := by
  have counts : multiplicity next.waitSet edge = multiplicity graph.waitSet edge := by
    unfold multiplicity
    congr 1
    ext wait
    simp only [Finset.mem_filter, mem_waitSet]
    exact and_congr_left (same wait)
  ext count
  rw [nextConsistent.tallies.edge_iff, consistent.tallies.edge_iff, counts]

/-- Two consistent graphs that know a transaction, with the same waits of it, have it in the same
number of waits. -/
theorem Consistent.degree?_congr {graph next : WaitGraph} (consistent : graph.Consistent)
    (nextConsistent : next.Consistent) {transaction : TransactionId}
    (known : next.contains transaction = graph.contains transaction)
    (same : ∀ wait : Wait, wait.waiter = transaction → (wait ∈ next.waits ↔ wait ∈ graph.waits)) :
    next.degree? transaction = graph.degree? transaction := by
  have counts : load next.waitSet transaction = load graph.waitSet transaction := by
    unfold load
    congr 1
    ext wait
    simp only [Finset.mem_filter, mem_waitSet]
    exact and_congr_left (same wait)
  have contained : next.degrees.contains transaction = graph.degrees.contains transaction := known
  rw [Std.ExtTreeMap.contains_eq_isSome_getElem?,
    Std.ExtTreeMap.contains_eq_isSome_getElem?] at contained
  unfold degree?
  cases found : graph.degrees[transaction]? with
  | none =>
      rw [found] at contained
      exact Option.isNone_iff_eq_none.mp (Option.isSome_eq_false_iff.mp contained)
  | some count =>
      rw [found] at contained
      obtain ⟨later, foundLater⟩ := Option.isSome_iff_exists.mp contained
      rw [foundLater, nextConsistent.tallies.degree _ _ foundLater, counts,
        consistent.tallies.degree _ _ found]

end RowStore.WaitGraph
