import RowStore.Proofs.WaitGraph.Counts
import RowStore.Proofs.WaitGraph.Upkeep

/-!
Runs of a wait graph: whatever is asked of it from the empty one on, a graph stands for a finite set
of waits that nobody waits in a circle in, and each update is the one it names on that set.
-/

set_option autoImplicit false

namespace RowStore

inductive WaitAction where
  | addWaits (waiter : TransactionId) (page : PageId) (holders : List TransactionId)
  | release (holder : TransactionId) (page : PageId)
  | resolve (waiter : TransactionId) (page : PageId)
  | remove (transaction : TransactionId)
  deriving DecidableEq, Repr

namespace WaitGraph

def perform (graph : WaitGraph) : WaitAction → WaitGraph
  | .addWaits waiter page holders => (graph.addWaits waiter page holders).1
  | .release holder page => graph.release holder page
  | .resolve waiter page => graph.resolve waiter page
  | .remove transaction => graph.remove transaction

def run (actions : List WaitAction) : WaitGraph :=
  actions.foldl perform empty

theorem Consistent.perform {graph : WaitGraph} (consistent : graph.Consistent)
    (action : WaitAction) : (graph.perform action).Consistent := by
  cases action with
  | addWaits waiter page holders =>
      change (graph.addWaits waiter page holders).1.Consistent
      cases outcome : graph.addWaits waiter page holders with
      | mk next taken =>
          cases taken with
          | true => exact (consistent.addWaits_true outcome).1
          | false => exact (consistent.addWaits_false outcome).1
  | release holder page => exact consistent.release holder page
  | resolve waiter page => exact consistent.resolve waiter page
  | remove transaction => exact consistent.remove transaction

theorem consistent_run (actions : List WaitAction) : (run actions).Consistent := by
  induction actions using List.reverseRecOn with
  | nil => exact consistent_empty
  | append_singleton earlier action ih =>
      rw [run, List.foldl_append]
      exact ih.perform action

/-! ### What a graph stands for -/

def pagesBetween (waits : Finset Wait) (holder waiter : TransactionId) : Finset PageId :=
  (waits.filter (fun wait => wait.holder = holder ∧ wait.waiter = waiter)).image Wait.page

/-- The graph stands for the waits: it keeps just them, nobody among them waits behind itself, not
even through others, and what the graph tells of its edges and degrees is told of them. -/
structure Represents (graph : WaitGraph) (waits : Finset Wait) : Prop where
  kept : ∀ wait, wait ∈ graph.waits ↔ wait ∈ waits
  apart : ∀ wait ∈ waits, wait.holder ≠ wait.waiter
  acyclic : ∀ transaction, ¬Relation.TransGen (Behind waits) transaction transaction
  counted : ∀ holder waiter,
    graph.edges.getD ⟨holder, waiter⟩ 0 = (pagesBetween waits holder waiter).card
  edgeCount : graph.edgeCount = waits.card
  hasEdge_iff : ∀ holder waiter, graph.hasEdge holder waiter = true ↔
    ∃ page, ⟨holder, page, waiter⟩ ∈ waits
  contains : ∀ wait ∈ waits,
    graph.contains wait.holder = true ∧ graph.contains wait.waiter = true
  degree : ∀ transaction, graph.contains transaction = true →
    graph.degree? transaction = some (waits.filter (fun wait => wait.waiter = transaction)).card

private theorem card_pagesBetween (waits : Finset Wait) (holder waiter : TransactionId) :
    (pagesBetween waits holder waiter).card = multiplicity waits ⟨holder, waiter⟩ := by
  unfold pagesBetween multiplicity
  rw [Finset.card_image_of_injOn]
  · simp only [Wait.edge, WaitEdge.mk.injEq]
  · intro first firstIn second secondIn samePage
    obtain ⟨_, firstHolder, firstWaiter⟩ := Finset.mem_filter.mp firstIn
    obtain ⟨_, secondHolder, secondWaiter⟩ := Finset.mem_filter.mp secondIn
    cases first
    cases second
    rw [Wait.mk.injEq]
    exact ⟨firstHolder.trans secondHolder.symm, samePage, firstWaiter.trans secondWaiter.symm⟩

private theorem Tallies.edgeCount {graph : WaitGraph} {waits : Finset Wait}
    (tallies : graph.Tallies waits) : graph.edgeCount = waits.card := by
  have all := sum_counts tallies.edge_iff (fun _ => true)
  rw [List.filter_true, Finset.filter_true_of_mem (fun _ _ => rfl)] at all
  rw [← all, List.sum_eq_foldl_nat, List.foldl_map]
  rfl

theorem Consistent.represents {graph : WaitGraph} (consistent : graph.Consistent) :
    graph.Represents graph.waitSet := by
  have tallies := consistent.tallies
  constructor
  · intro wait
    exact mem_waitSet.symm
  · obtain ⟨rank, increases⟩ := consistent.ranked
    intro wait present same
    have climbs := increases wait present
    rw [same] at climbs
    exact Nat.lt_irrefl _ climbs
  · exact consistent.ranked.no_cycle
  · intro holder waiter
    rw [tallies.getD_edges, card_pagesBetween]
  · exact tallies.edgeCount
  · intro holder waiter
    exact consistent.hasEdge_iff
  · intro wait present
    exact tallies.known wait present
  · intro transaction contained
    have found := Std.ExtTreeMap.getElem?_eq_some_getElem
      (Std.ExtTreeMap.mem_iff_contains.mpr contained)
    rw [degree?, found, tallies.degree transaction _ found]
    rfl

/-- After any actions from the empty graph on, the graph stands for a set of waits. Releasing a page
takes just the waits behind that holder on it from the set, resolving those of that waiter on it,
and removing a transaction those with it. New waits are refused just when the waiter would wait
behind someone whom the edges lead to from it; then the set stays, and else it gets just the waits
behind the holders named, other than the waiter itself. -/
theorem represents_run (actions : List WaitAction) :
    ∃ waits, (run actions).Represents waits ∧
      (∀ holder page, ((run actions).release holder page).Represents
        (waits.filter (fun wait => ¬(wait.holder = holder ∧ wait.page = page)))) ∧
      (∀ waiter page, ((run actions).resolve waiter page).Represents
        (waits.filter (fun wait => ¬(wait.waiter = waiter ∧ wait.page = page)))) ∧
      (∀ transaction, ((run actions).remove transaction).Represents
        (waits.filter (fun wait => wait.holder ≠ transaction ∧ wait.waiter ≠ transaction))) ∧
      ∀ waiter page holders next taken,
        (run actions).addWaits waiter page holders = (next, taken) →
          (taken = false ↔ ∃ holder ∈ holders, holder ≠ waiter ∧ Relation.TransGen
            (fun first second => (run actions).hasEdge first second = true) waiter holder) ∧
          (taken = false → next.Represents waits) ∧
          (taken = true → next.Represents (waits ∪
            (waitsBehind waiter page (holders.filter (· ≠ waiter))).toFinset)) := by
  have consistent := consistent_run actions
  refine ⟨(run actions).waitSet, consistent.represents, ?_, ?_, ?_, ?_⟩
  · intro holder page
    rw [← waitSet_release]
    exact (consistent.release holder page).represents
  · intro waiter page
    rw [← waitSet_resolve]
    exact (consistent.resolve waiter page).represents
  · intro transaction
    rw [← waitSet_remove]
    exact (consistent.remove transaction).represents
  · intro waiter page holders next taken outcome
    have edges : (fun first second => (run actions).hasEdge first second = true) =
        Behind (run actions).waitSet := by
      funext first second
      exact propext consistent.hasEdge_iff
    refine ⟨?_, ?_, ?_⟩
    · have refused := consistent.addWaits_eq_false_iff waiter page holders
      rw [edges, ← refused, outcome]
    · rintro rfl
      obtain ⟨nextConsistent, sameWaits⟩ := consistent.addWaits_false outcome
      have unchanged : next.waitSet = (run actions).waitSet := by
        rw [waitSet, sameWaits, waitSet]
      rw [← unchanged]
      exact nextConsistent.represents
    · rintro rfl
      rw [← consistent.waitSet_addWaits outcome]
      exact (consistent.addWaits_true outcome).1.represents

end WaitGraph

end RowStore
