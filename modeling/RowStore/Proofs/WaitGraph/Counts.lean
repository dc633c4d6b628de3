import Mathlib.Algebra.BigOperators.Group.Finset.Basic
import RowStore.Proofs.WaitGraph.Circles

/-!
Counts: what the counts of a graph have to be for the check for cycles to decide. A graph whose
edges are counted, whose transactions are all known and whose degrees are the sums of the counts
tallies with some set of waits, whether or not it keeps these. The check ends on each such graph, in
whatever order waiters and unblocked transactions come up, and it tells whether there is a cycle.
-/

set_option autoImplicit false

namespace RowStore.WaitGraph

/-! ### Sums of counts -/

/-- The counts of the edges that pass a test add up to the number of waits on such edges. -/
theorem sum_counts {graph : WaitGraph} {waits : Finset Wait}
    (edge_iff : ∀ edge count, graph.edges[edge]? = some count ↔
      0 < count ∧ multiplicity waits edge = count) (test : WaitEdge → Bool) :
    ((graph.edges.toList.filter (fun entry => test entry.1)).map (fun entry => entry.2)).sum =
      (waits.filter (fun wait => test wait.edge = true)).card := by
  have keysNodup : (graph.edges.keys.filter test).Nodup := by
    apply List.Nodup.filter
    apply graph.edges.distinct_keys.imp
    rintro first second different rfl
    exact different Std.compare_self
  have counts : (graph.edges.toList.filter (fun entry => test entry.1)).map (fun entry => entry.2) =
      (graph.edges.keys.filter test).map (multiplicity waits) := by
    rw [← Std.ExtTreeMap.map_fst_toList_eq_keys, List.filter_map, List.map_map]
    apply List.map_congr_left
    intro entry member
    have found := Std.ExtTreeMap.mem_toList_iff_getElem?_eq_some.mp (List.mem_filter.mp member).1
    exact ((edge_iff _ _).mp found).2.symm
  have edgesOf : ∀ wait ∈ waits.filter (fun wait => test wait.edge = true),
      wait.edge ∈ (graph.edges.keys.filter test).toFinset := by
    intro wait member
    obtain ⟨present, passes⟩ := Finset.mem_filter.mp member
    have positive : 0 < multiplicity waits wait.edge :=
      multiplicity_pos_iff.mpr ⟨wait.page, present⟩
    rw [List.mem_toFinset, List.mem_filter, Std.ExtTreeMap.mem_keys,
      ← Std.ExtTreeMap.isSome_getElem?_iff_mem, (edge_iff wait.edge _).mpr ⟨positive, rfl⟩]
    exact ⟨rfl, passes⟩
  have onEdge : ∀ edge ∈ (graph.edges.keys.filter test).toFinset, multiplicity waits edge =
      ((waits.filter (fun wait => test wait.edge = true)).filter
        (fun wait => wait.edge = edge)).card := by
    intro edge member
    have passes := (List.mem_filter.mp (List.mem_toFinset.mp member)).2
    rw [Finset.filter_filter, multiplicity]
    congr 1
    apply Finset.filter_congr
    intro wait _
    constructor
    · intro same
      exact ⟨same ▸ passes, same⟩
    · exact And.right
  calc ((graph.edges.toList.filter (fun entry => test entry.1)).map (fun entry => entry.2)).sum
      = ((graph.edges.keys.filter test).map (multiplicity waits)).sum := by rw [counts]
    _ = ∑ edge ∈ (graph.edges.keys.filter test).toFinset, multiplicity waits edge :=
        (List.sum_toFinset _ keysNodup).symm
    _ = _ := Finset.sum_congr rfl onEdge
    _ = _ := (Finset.card_eq_sum_card_fiberwise edgesOf).symm

/-! ### Graphs with the right counts -/

def inflow (graph : WaitGraph) (transaction : TransactionId) : Nat :=
  ((graph.edges.toList.filter (fun entry => entry.1.waiter == transaction)).map
    (fun entry => entry.2)).sum

/-- Both ends of every edge are known, no count is zero, and the degrees are the sums of the
counts. Nothing is asked of the waits that the graph keeps. -/
structure Counted (graph : WaitGraph) : Prop where
  known : ∀ entry ∈ graph.edges.toList,
    entry.1.holder ∈ graph.degrees ∧ entry.1.waiter ∈ graph.degrees
  positive : ∀ entry ∈ graph.edges.toList, entry.2 ≠ 0
  degree : ∀ entry ∈ graph.degrees.toList, entry.2 = graph.inflow entry.1

/-- Waits made up for the counts of a graph: as many on each edge as it counts, for the first pages
of some table. -/
def standIns (graph : WaitGraph) : Finset Wait :=
  (graph.edges.toList.flatMap (fun entry => (List.range entry.2).map
    (fun number => ⟨entry.1.holder, ⟨⟨0⟩, number⟩, entry.1.waiter⟩))).toFinset

theorem mem_standIns {graph : WaitGraph} {wait : Wait} :
    wait ∈ graph.standIns ↔ wait.page.table = ⟨0⟩ ∧
      ∃ count, graph.edges[wait.edge]? = some count ∧ wait.page.number < count := by
  simp only [standIns, List.mem_toFinset, List.mem_flatMap, List.mem_map, List.mem_range]
  constructor
  · rintro ⟨⟨edge, count⟩, listed, number, below, rfl⟩
    exact ⟨rfl, count, Std.ExtTreeMap.mem_toList_iff_getElem?_eq_some.mp listed, below⟩
  · rintro ⟨table, count, found, below⟩
    refine ⟨(wait.edge, count), Std.ExtTreeMap.mem_toList_iff_getElem?_eq_some.mpr found,
      wait.page.number, below, ?_⟩
    rw [← table]
    rfl

theorem multiplicity_standIns {graph : WaitGraph} {edge : WaitEdge} {count : Nat}
    (found : graph.edges[edge]? = some count) : multiplicity graph.standIns edge = count := by
  have places : graph.standIns.filter (fun wait => wait.edge = edge) =
      (Finset.range count).image (fun number => ⟨edge.holder, ⟨⟨0⟩, number⟩, edge.waiter⟩) := by
    ext wait
    simp only [Finset.mem_filter, mem_standIns, Finset.mem_image, Finset.mem_range]
    constructor
    · rintro ⟨⟨table, other, foundOther, below⟩, rfl⟩
      rw [found] at foundOther
      cases foundOther
      refine ⟨wait.page.number, below, ?_⟩
      rw [← table]
      rfl
    · rintro ⟨number, below, rfl⟩
      exact ⟨⟨rfl, count, found, below⟩, rfl⟩
  rw [multiplicity, places, Finset.card_image_of_injective, Finset.card_range]
  intro first second same
  exact congrArg (fun wait : Wait => wait.page.number) same

theorem Counted.tallies {graph : WaitGraph} (counted : graph.Counted) :
    graph.Tallies graph.standIns := by
  have edge_iff (edge : WaitEdge) (count : Nat) : graph.edges[edge]? = some count ↔
      0 < count ∧ multiplicity graph.standIns edge = count := by
    constructor
    · intro found
      have listed := Std.ExtTreeMap.mem_toList_iff_getElem?_eq_some.mpr found
      exact ⟨Nat.pos_of_ne_zero (counted.positive _ listed), multiplicity_standIns found⟩
    · rintro ⟨positive, rfl⟩
      obtain ⟨page, present⟩ := multiplicity_pos_iff.mp positive
      obtain ⟨_, count, counts, _⟩ := mem_standIns.mp present
      have found : graph.edges[edge]? = some count := counts
      rw [multiplicity_standIns found]
      exact found
  refine ⟨edge_iff, ?_, ?_⟩
  · intro transaction count found
    have sum := counted.degree _ (Std.ExtTreeMap.mem_toList_iff_getElem?_eq_some.mpr found)
    rw [inflow, sum_counts edge_iff (fun edge => edge.waiter == transaction)] at sum
    simpa only [load, Wait.edge, beq_iff_eq] using sum
  · intro wait present
    obtain ⟨_, count, found, _⟩ := mem_standIns.mp present
    exact counted.known _ (Std.ExtTreeMap.mem_toList_iff_getElem?_eq_some.mpr found)

/-! ### Any order -/

section

variable {waits : Finset Wait} {waitersOf listed : TransactionId → List (TransactionId × Nat)}
  {off ready start : List TransactionId} {degrees : Std.ExtTreeMap TransactionId Nat}

theorem Lists.perm (lists : Lists waitersOf waits)
    (same : ∀ holder, (listed holder).Perm (waitersOf holder)) : Lists listed waits where
  distinct := fun holder => ((same holder).map _).nodup_iff.mpr (lists.distinct holder)
  listed_iff := fun holder waiter =>
    ((same holder).map _).mem_iff.trans (lists.listed_iff holder waiter)
  charge_eq := fun holder waiter =>
    (((same holder).filter _).map _).sum_eq.trans (lists.charge_eq holder waiter)

theorem Peeled.perm (peeled : Peeled waits off degrees ready) (same : start.Perm ready) :
    Peeled waits off degrees start where
  degree := peeled.degree
  known := fun transaction member => peeled.known transaction (same.mem_iff.mp member)
  nodup := same.nodup_iff.mpr peeled.nodup
  fresh := fun transaction member => peeled.fresh transaction (same.mem_iff.mp member)
  settled := fun transaction place =>
    peeled.settled transaction (place.imp_right same.mem_iff.mp)

theorem Thorough.perm (thorough : Thorough waits off degrees ready) (same : start.Perm ready) :
    Thorough waits off degrees start :=
  fun transaction known free => (thorough transaction known free).imp_right same.mem_iff.mpr

end

/-- On a graph with the right counts peeling ends after at most as many transactions as the graph
knows, and no degree comes to be less than what is taken from it, in whatever order the waiters of
each transaction and the unblocked transactions come up. It takes nobody off twice. Everyone comes
off just when the edges lead from nobody back to itself, and this is what the check answers. -/
theorem peeling_decides_cycles {graph : WaitGraph} (counted : graph.Counted)
    {waitersOf : TransactionId → List (TransactionId × Nat)} {ready : List TransactionId}
    (anyWaiters : ∀ holder, (waitersOf holder).Perm (graph.waitersOf holder))
    (anyReady : ready.Perm graph.unblocked) :
    ∃ order, peel waitersOf graph.degrees.size graph.degrees ready = some order ∧ order.Nodup ∧
      (∀ transaction ∈ order, graph.contains transaction = true) ∧
      (order.length = graph.degrees.size ↔ ∀ transaction, ¬Relation.TransGen
        (fun holder waiter => graph.hasEdge holder waiter = true) transaction transaction) ∧
      (graph.isAcyclic = true ↔ ∀ transaction, ¬Relation.TransGen
        (fun holder waiter => graph.hasEdge holder waiter = true) transaction transaction) := by
  have tallies := counted.tallies
  have edges : (fun holder waiter => graph.hasEdge holder waiter = true) =
      Behind graph.standIns := by
    funext holder waiter
    exact propext tallies.hasEdge_iff
  obtain ⟨order, found, nodup, known, complete⟩ := tallies.exists_order
    (tallies.lists.perm anyWaiters) (tallies.peeled.perm anyReady) (tallies.thorough.perm anyReady)
  rw [edges, ← ranked_iff_no_cycle]
  exact ⟨order, found, nodup,
    fun transaction member => Std.ExtTreeMap.mem_iff_contains.mp (known transaction member),
    complete, tallies.isAcyclic_iff⟩

/-- Two transactions wait for each other, and three others do not wait in a circle, on edges that
are counted up to three times. Looked through from the other end, just those three come off. -/
theorem peeling_decides_cycles_from_the_other_end :
    let edges : List (WaitEdge × Nat) := [(⟨⟨1⟩, ⟨2⟩⟩, 2), (⟨⟨1⟩, ⟨3⟩⟩, 1), (⟨⟨2⟩, ⟨3⟩⟩, 3),
      (⟨⟨4⟩, ⟨5⟩⟩, 1), (⟨⟨5⟩, ⟨4⟩⟩, 2), (⟨⟨6⟩, ⟨5⟩⟩, 1)]
    let degrees : List (TransactionId × Nat) :=
      [(⟨1⟩, 0), (⟨2⟩, 2), (⟨3⟩, 4), (⟨4⟩, 2), (⟨5⟩, 2), (⟨6⟩, 0)]
    let graph : WaitGraph := ⟨.ofList edges, .ofList degrees, ∅⟩
    let waitersOf := fun holder => (graph.waitersOf holder).reverse
    let ready := graph.unblocked.reverse
    graph.Counted ∧ (∀ holder, (waitersOf holder).Perm (graph.waitersOf holder)) ∧
      ready.Perm graph.unblocked ∧
      peel waitersOf graph.degrees.size graph.degrees ready = some [⟨6⟩, ⟨1⟩, ⟨2⟩, ⟨3⟩] ∧
      graph.isAcyclic = false ∧ ∃ transaction, Relation.TransGen
        (fun holder waiter => graph.hasEdge holder waiter = true) transaction transaction := by
  intro edges degrees graph waitersOf ready
  have counted : graph.Counted :=
    ⟨by decide +kernel, by decide +kernel, by decide +kernel⟩
  have anyWaiters (holder : TransactionId) : (waitersOf holder).Perm (graph.waitersOf holder) :=
    (graph.waitersOf holder).reverse_perm
  have anyReady : ready.Perm graph.unblocked := graph.unblocked.reverse_perm
  have result : peel waitersOf graph.degrees.size graph.degrees ready =
      some [⟨6⟩, ⟨1⟩, ⟨2⟩, ⟨3⟩] := by decide +kernel
  have cyclic : graph.isAcyclic = false := by decide +kernel
  obtain ⟨order, found, _, _, complete, _⟩ := peeling_decides_cycles counted anyWaiters anyReady
  refine ⟨counted, anyWaiters, anyReady, result, cyclic, ?_⟩
  -- Four of the six come off.
  by_contra none
  have all := complete.mpr (fun transaction path => none ⟨transaction, path⟩)
  rw [result] at found
  cases found
  exact absurd all (by decide +kernel)

end RowStore.WaitGraph
