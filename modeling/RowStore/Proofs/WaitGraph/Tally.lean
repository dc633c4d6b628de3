import Mathlib.Data.Finset.Card
import RowStore.WaitGraph.Updates

/-!
Tallies: what the counts of a wait graph count. The graph keeps its waits three times, as a set, as
counted edges and as degrees; a graph tallies with a set of waits when the counts are those of the
set. Linking and unlinking one edge adds and takes away one wait.
-/

set_option autoImplicit false

namespace RowStore.WaitGraph

/-! ### Counting waits -/

def waitSet (graph : WaitGraph) : Finset Wait :=
  graph.waits.toList.toFinset

@[simp] theorem mem_waitSet {graph : WaitGraph} {wait : Wait} :
    wait ∈ graph.waitSet ↔ wait ∈ graph.waits := by
  simp [waitSet]

def multiplicity (waits : Finset Wait) (edge : WaitEdge) : Nat :=
  (waits.filter (fun wait => wait.edge = edge)).card

def load (waits : Finset Wait) (transaction : TransactionId) : Nat :=
  (waits.filter (fun wait => wait.waiter = transaction)).card

theorem multiplicity_insert {waits : Finset Wait} {wait : Wait} (absent : wait ∉ waits)
    (edge : WaitEdge) :
    multiplicity (insert wait waits) edge =
      multiplicity waits edge + if wait.edge = edge then 1 else 0 := by
  unfold multiplicity
  rw [Finset.filter_insert]
  by_cases same : wait.edge = edge
  · rw [if_pos same, if_pos same, Finset.card_insert_of_notMem]
    intro member
    exact absent (Finset.mem_filter.mp member).1
  · rw [if_neg same, if_neg same, Nat.add_zero]

theorem load_insert {waits : Finset Wait} {wait : Wait} (absent : wait ∉ waits)
    (transaction : TransactionId) :
    load (insert wait waits) transaction =
      load waits transaction + if wait.waiter = transaction then 1 else 0 := by
  unfold load
  rw [Finset.filter_insert]
  by_cases same : wait.waiter = transaction
  · rw [if_pos same, if_pos same, Finset.card_insert_of_notMem]
    intro member
    exact absent (Finset.mem_filter.mp member).1
  · rw [if_neg same, if_neg same, Nat.add_zero]

theorem multiplicity_pos_iff {waits : Finset Wait} {edge : WaitEdge} :
    0 < multiplicity waits edge ↔ ∃ page, ⟨edge.holder, page, edge.waiter⟩ ∈ waits := by
  unfold multiplicity
  rw [Finset.card_pos]
  constructor
  · rintro ⟨wait, member⟩
    obtain ⟨present, rfl⟩ := Finset.mem_filter.mp member
    exact ⟨wait.page, present⟩
  · rintro ⟨page, present⟩
    exact ⟨⟨edge.holder, page, edge.waiter⟩, Finset.mem_filter.mpr ⟨present, rfl⟩⟩

/-! ### Graphs that tally -/

/-- The edges and degrees of the graph are the counts of the waits, and the graph knows everyone in
the waits. -/
structure Tallies (graph : WaitGraph) (waits : Finset Wait) : Prop where
  edge_iff : ∀ edge count, graph.edges[edge]? = some count ↔
    0 < count ∧ multiplicity waits edge = count
  degree : ∀ transaction count, graph.degrees[transaction]? = some count →
    count = load waits transaction
  known : ∀ wait ∈ waits, wait.holder ∈ graph.degrees ∧ wait.waiter ∈ graph.degrees

theorem Tallies.getD_edges {graph : WaitGraph} {waits : Finset Wait}
    (tallies : graph.Tallies waits) (edge : WaitEdge) :
    graph.edges.getD edge 0 = multiplicity waits edge := by
  rw [Std.ExtTreeMap.getD_eq_getD_getElem?]
  cases found : graph.edges[edge]? with
  | some count =>
      exact ((tallies.edge_iff edge count).mp found).2.symm
  | none =>
      by_cases positive : 0 < multiplicity waits edge
      · rw [(tallies.edge_iff edge _).mpr ⟨positive, rfl⟩] at found
        cases found
      · exact (Nat.eq_zero_of_not_pos positive).symm

theorem Tallies.getD_degrees {graph : WaitGraph} {waits : Finset Wait}
    (tallies : graph.Tallies waits) (transaction : TransactionId) :
    graph.degrees.getD transaction 0 = load waits transaction := by
  rw [Std.ExtTreeMap.getD_eq_getD_getElem?]
  cases found : graph.degrees[transaction]? with
  | some count => exact tallies.degree transaction count found
  | none =>
      have unknown : transaction ∉ graph.degrees := by
        intro member
        rw [Std.ExtTreeMap.getElem?_eq_some_getElem member] at found
        cases found
      symm
      apply Finset.card_eq_zero.mpr
      apply Finset.filter_eq_empty_iff.mpr
      rintro wait present rfl
      exact unknown (tallies.known wait present).2

theorem tallies_empty : Tallies WaitGraph.empty ∅ := by
  constructor
  · intro edge count
    simp only [empty, Std.ExtTreeMap.getElem?_empty, multiplicity, Finset.filter_empty,
      Finset.card_empty, reduceCtorEq, false_iff]
    omega
  · intro transaction count found
    simp [empty] at found
  · intro wait present
    simp at present

/-! ### One wait more, one wait less -/

@[simp] theorem waits_meet (graph : WaitGraph) (transaction : TransactionId) :
    (graph.meet transaction).waits = graph.waits := rfl

@[simp] theorem waits_link (graph : WaitGraph) (edge : WaitEdge) :
    (graph.link edge).waits = graph.waits := rfl

@[simp] theorem waits_unlink (graph : WaitGraph) (edge : WaitEdge) :
    (graph.unlink edge).waits = graph.waits := by
  unfold unlink
  split <;> rfl

theorem mem_degrees_meet {graph : WaitGraph} {met transaction : TransactionId} :
    transaction ∈ (graph.meet met).degrees ↔ transaction = met ∨ transaction ∈ graph.degrees := by
  simp only [meet, Std.ExtTreeMap.mem_insertIfNew, Std.LawfulEqCmp.compare_eq_iff_eq,
    @eq_comm _ met transaction]

theorem Tallies.meet {graph : WaitGraph} {waits : Finset Wait} (tallies : graph.Tallies waits)
    (transaction : TransactionId) : (graph.meet transaction).Tallies waits := by
  constructor
  · exact tallies.edge_iff
  · intro other count found
    simp only [WaitGraph.meet, Std.ExtTreeMap.getElem?_insertIfNew] at found
    split at found
    · rename_i fresh
      have same : transaction = other := Std.LawfulEqOrd.eq_of_compare fresh.1
      have zero := tallies.getD_degrees transaction
      rw [Std.ExtTreeMap.getD_eq_fallback fresh.2, same] at zero
      rw [← Option.some.inj found]
      exact zero
    · exact tallies.degree other count found
  · intro wait present
    have both := tallies.known wait present
    exact ⟨mem_degrees_meet.mpr (Or.inr both.1), mem_degrees_meet.mpr (Or.inr both.2)⟩

theorem Tallies.link {graph : WaitGraph} {waits : Finset Wait} (tallies : graph.Tallies waits)
    {wait : Wait} (absent : wait ∉ waits) (holderKnown : wait.holder ∈ graph.degrees) :
    (graph.link wait.edge).Tallies (insert wait waits) := by
  constructor
  · intro edge count
    rw [multiplicity_insert absent]
    simp only [WaitGraph.link, Std.ExtTreeMap.getElem?_insert, tallies.getD_edges,
      Std.LawfulEqCmp.compare_eq_iff_eq]
    by_cases same : wait.edge = edge
    · subst edge
      simp only [if_true, Option.some.injEq]
      omega
    · simp only [if_neg same, Nat.add_zero]
      exact tallies.edge_iff edge count
  · intro transaction count found
    rw [load_insert absent]
    simp only [WaitGraph.link, Std.ExtTreeMap.getElem?_insert, tallies.getD_degrees,
      Std.LawfulEqCmp.compare_eq_iff_eq] at found
    by_cases same : wait.edge.waiter = transaction
    · have atWaiter : wait.waiter = transaction := same
      rw [if_pos same] at found
      rw [if_pos atWaiter, ← Option.some.inj found, same]
    · have elsewhere : wait.waiter ≠ transaction := same
      rw [if_neg same] at found
      rw [if_neg elsewhere, Nat.add_zero]
      exact tallies.degree transaction count found
  · intro other present
    have waiterKnown : wait.edge.waiter ∈ (graph.link wait.edge).degrees := by
      simp [WaitGraph.link]
    have grown {transaction : TransactionId} (known : transaction ∈ graph.degrees) :
        transaction ∈ (graph.link wait.edge).degrees := by
      simp [WaitGraph.link, known]
    rcases Finset.mem_insert.mp present with rfl | earlier
    · exact ⟨grown holderKnown, waiterKnown⟩
    · have both := tallies.known other earlier
      exact ⟨grown both.1, grown both.2⟩

theorem Tallies.unlink {graph : WaitGraph} {waits : Finset Wait} (tallies : graph.Tallies waits)
    {wait : Wait} (present : wait ∈ waits) :
    (graph.unlink wait.edge).Tallies (waits.erase wait) := by
  have restored : insert wait (waits.erase wait) = waits := Finset.insert_erase present
  have absent : wait ∉ waits.erase wait := Finset.notMem_erase wait waits
  have multiplicityLess (edge : WaitEdge) := multiplicity_insert absent edge
  have loadLess (transaction : TransactionId) := load_insert absent transaction
  rw [restored] at multiplicityLess loadLess
  have positive : 0 < multiplicity waits wait.edge :=
    multiplicity_pos_iff.mpr ⟨wait.page, present⟩
  have counted : graph.edges[wait.edge]? = some (multiplicity waits wait.edge) :=
    (tallies.edge_iff wait.edge _).mpr ⟨positive, rfl⟩
  have removedOne := multiplicityLess wait.edge
  rw [if_pos rfl] at removedOne
  constructor
  · intro edge count
    simp only [WaitGraph.unlink, counted]
    by_cases same : wait.edge = edge
    · subst edge
      by_cases last : multiplicity waits wait.edge ≤ 1
      · simp only [if_pos last, Std.ExtTreeMap.getElem?_erase_self, reduceCtorEq, false_iff]
        omega
      · simp only [if_neg last, Std.ExtTreeMap.getElem?_insert_self, Option.some.injEq]
        omega
    · have unchanged := multiplicityLess edge
      rw [if_neg same, Nat.add_zero] at unchanged
      rw [← unchanged, ← tallies.edge_iff edge count]
      split <;> simp [Std.ExtTreeMap.getElem?_erase, Std.ExtTreeMap.getElem?_insert, same]
  · intro transaction count found
    have lighter := loadLess transaction
    simp only [WaitGraph.unlink, counted, Std.ExtTreeMap.getElem?_modify,
      Std.LawfulEqCmp.compare_eq_iff_eq] at found
    by_cases same : wait.edge.waiter = transaction
    · have atWaiter : wait.waiter = transaction := same
      rw [if_pos same] at found
      obtain ⟨before, foundBefore, rfl⟩ := Option.map_eq_some_iff.mp found
      have counts := tallies.degree _ before foundBefore
      rw [if_pos atWaiter] at lighter
      rw [same] at counts
      omega
    · have elsewhere : wait.waiter ≠ transaction := same
      rw [if_neg same] at found
      rw [if_neg elsewhere, Nat.add_zero] at lighter
      rw [← lighter]
      exact tallies.degree transaction count found
  · intro other remaining
    have both := tallies.known other (Finset.mem_of_mem_erase remaining)
    simp only [WaitGraph.unlink, counted, Std.ExtTreeMap.mem_modify]
    exact both

theorem mem_degrees_unlink {graph : WaitGraph} {edge : WaitEdge} {transaction : TransactionId} :
    transaction ∈ (graph.unlink edge).degrees ↔ transaction ∈ graph.degrees := by
  unfold unlink
  split
  · rfl
  · exact Std.ExtTreeMap.mem_modify

theorem Tallies.eq_of_known {graph next : WaitGraph} {waits : Finset Wait}
    (tallies : graph.Tallies waits) (others : next.Tallies waits)
    (known : ∀ transaction, transaction ∈ next.degrees ↔ transaction ∈ graph.degrees)
    (same : next.waits = graph.waits) : next = graph := by
  have edges : next.edges = graph.edges := by
    apply Std.ExtTreeMap.ext_getElem?
    intro edge
    ext count
    rw [others.edge_iff, tallies.edge_iff]
  have degrees : next.degrees = graph.degrees := by
    apply Std.ExtTreeMap.ext_getElem?
    intro transaction
    have both := known transaction
    rw [← Std.ExtTreeMap.isSome_getElem?_iff_mem,
      ← Std.ExtTreeMap.isSome_getElem?_iff_mem] at both
    cases before : graph.degrees[transaction]? with
    | none =>
        rw [before] at both
        simpa using both
    | some count =>
        obtain ⟨later, after⟩ := Option.isSome_iff_exists.mp (both.mpr (by rw [before]; rfl))
        rw [after, others.degree _ _ after, tallies.degree _ _ before]
  cases next
  cases graph
  cases edges
  cases degrees
  cases same
  rfl

end RowStore.WaitGraph
