import Mathlib.Algebra.GroupWithZero.Nat
import Mathlib.Data.Finset.Image
import Mathlib.Logic.Relation
import RowStore.Proofs.WaitGraph.Tally

/-!
Orders: what it means that peeling takes every transaction off a wait graph. The order in which the
transactions come off ranks each of them above everyone it waits behind, and waits can be ranked
just when they have no cycle.
-/

set_option autoImplicit false

namespace RowStore.WaitGraph

/-! ### Ranks and cycles -/

def Behind (waits : Finset Wait) (holder waiter : TransactionId) : Prop :=
  ∃ page, ⟨holder, page, waiter⟩ ∈ waits

theorem Tallies.hasEdge_iff {graph : WaitGraph} {waits : Finset Wait}
    (tallies : graph.Tallies waits) {holder waiter : TransactionId} :
    graph.hasEdge holder waiter = true ↔ Behind waits holder waiter := by
  have counted := tallies.edge_iff ⟨holder, waiter⟩
  unfold hasEdge
  rw [Std.ExtTreeMap.contains_eq_isSome_getElem?, Option.isSome_iff_exists]
  constructor
  · intro present
    obtain ⟨count, found⟩ := present
    obtain ⟨positive, same⟩ := (counted count).mp found
    rw [← same] at positive
    exact multiplicity_pos_iff.mp positive
  · intro behind
    have positive : 0 < multiplicity waits ⟨holder, waiter⟩ := multiplicity_pos_iff.mpr behind
    exact ⟨_, (counted _).mpr ⟨positive, rfl⟩⟩

def Ranked (waits : Finset Wait) : Prop :=
  ∃ rank : TransactionId → Nat, ∀ wait ∈ waits, rank wait.holder < rank wait.waiter

theorem behind_mono {fewer waits : Finset Wait} (subset : fewer ⊆ waits) :
    Behind fewer ≤ Behind waits := by
  rintro holder waiter ⟨page, present⟩
  exact ⟨page, subset present⟩

theorem Ranked.mono {fewer waits : Finset Wait} (ranked : Ranked waits) (subset : fewer ⊆ waits) :
    Ranked fewer := by
  obtain ⟨rank, increases⟩ := ranked
  exact ⟨rank, fun wait present => increases wait (subset present)⟩

theorem Ranked.no_cycle {waits : Finset Wait} (ranked : Ranked waits)
    (transaction : TransactionId) : ¬Relation.TransGen (Behind waits) transaction transaction := by
  obtain ⟨rank, increases⟩ := ranked
  have climbs {first last : TransactionId} (path : Relation.TransGen (Behind waits) first last) :
      rank first < rank last := by
    induction path with
    | single step =>
        obtain ⟨page, present⟩ := step
        exact increases _ present
    | tail _ step ih =>
        obtain ⟨page, present⟩ := step
        exact Nat.lt_trans ih (increases _ present)
  intro cycle
  exact Nat.lt_irrefl _ (climbs cycle)

/-- Waits without a cycle can be ranked, by how many each transaction waits behind, directly or
through others. -/
theorem ranked_of_no_cycle {waits : Finset Wait}
    (acyclic : ∀ transaction, ¬Relation.TransGen (Behind waits) transaction transaction) :
    Ranked waits := by
  classical
  let above (transaction : TransactionId) : Finset TransactionId :=
    (waits.image Wait.holder).filter
      (fun holder => Relation.TransGen (Behind waits) holder transaction)
  refine ⟨fun transaction => (above transaction).card, ?_⟩
  intro wait present
  have step : Behind waits wait.holder wait.waiter := ⟨wait.page, present⟩
  have subset : above wait.holder ⊆ above wait.waiter := by
    intro holder member
    obtain ⟨holds, path⟩ := Finset.mem_filter.mp member
    exact Finset.mem_filter.mpr ⟨holds, path.tail step⟩
  apply Finset.card_lt_card
  rw [Finset.ssubset_iff_of_subset subset]
  refine ⟨wait.holder, ?_, ?_⟩
  · exact Finset.mem_filter.mpr ⟨Finset.mem_image_of_mem Wait.holder present, .single step⟩
  · intro member
    exact acyclic wait.holder (Finset.mem_filter.mp member).2

theorem ranked_iff_no_cycle {waits : Finset Wait} : Ranked waits ↔
    ∀ transaction, ¬Relation.TransGen (Behind waits) transaction transaction :=
  ⟨Ranked.no_cycle, ranked_of_no_cycle⟩

/-! ### Taking edges from degrees -/

def charge (entries : List (TransactionId × Nat)) (transaction : TransactionId) : Nat :=
  ((entries.filter (fun entry => entry.1 = transaction)).map (fun entry => entry.2)).sum

theorem charge_cons (entry : TransactionId × Nat) (rest : List (TransactionId × Nat))
    (transaction : TransactionId) :
    charge (entry :: rest) transaction =
      (if entry.1 = transaction then entry.2 else 0) + charge rest transaction := by
  unfold charge
  by_cases same : entry.1 = transaction
  · simp [same]
  · simp [same]

private theorem charge_eq_zero {entries : List (TransactionId × Nat)} {transaction : TransactionId}
    (absent : transaction ∉ entries.map (fun entry => entry.1)) :
    charge entries transaction = 0 := by
  unfold charge
  rw [List.filter_eq_nil_iff.mpr]
  · rfl
  · intro entry member same
    exact absent (List.mem_map.mpr ⟨entry, member, of_decide_eq_true same⟩)

private theorem charge_of_mem {entries : List (TransactionId × Nat)}
    (distinct : (entries.map (fun entry => entry.1)).Nodup) {transaction : TransactionId}
    {count : Nat} (member : (transaction, count) ∈ entries) :
    charge entries transaction = count := by
  induction entries with
  | nil => cases member
  | cons entry rest ih =>
      rw [List.map_cons, List.nodup_cons] at distinct
      rw [charge_cons]
      rcases List.mem_cons.mp member with rfl | later
      · rw [if_pos rfl, charge_eq_zero distinct.1, Nat.add_zero]
      · have different : entry.1 ≠ transaction := by
          intro same
          apply distinct.1
          rw [same]
          exact List.mem_map.mpr ⟨_, later, rfl⟩
        rw [if_neg different, Nat.zero_add]
        exact ih distinct.2 later

theorem degrees_of_deduct {degrees remaining : Std.ExtTreeMap TransactionId Nat}
    {entries : List (TransactionId × Nat)} {freed : List TransactionId}
    (deducted : deduct degrees entries = some (remaining, freed)) (transaction : TransactionId) :
    degrees[transaction]? = remaining[transaction]?.map (· + charge entries transaction) := by
  induction entries generalizing degrees freed with
  | nil =>
      cases deducted
      simp [charge]
  | cons entry rest ih =>
      obtain ⟨waiter, count⟩ := entry
      simp only [deduct] at deducted
      rw [charge_cons]
      split at deducted
      · rename_i unknown
        rw [ih deducted]
        by_cases same : waiter = transaction
        · subst transaction
          have absent := ih deducted
          rw [unknown] at absent
          rw [Option.map_eq_none_iff.mp absent.symm]
          rfl
        · simp [same]
      · rename_i degree known
        split at deducted
        · cases deducted
        · rename_i enough
          obtain ⟨⟨left, later⟩, fromRest, shape⟩ := Option.bind_eq_some_iff.mp deducted
          cases shape
          have after := ih fromRest
          rw [Std.ExtTreeMap.getElem?_insert] at after
          by_cases same : waiter = transaction
          · subst transaction
            simp only [Std.compare_self, if_true] at after
            obtain ⟨residue, found, total⟩ := Option.map_eq_some_iff.mp after.symm
            rw [known, found]
            simp only [if_true, Option.map_some, Option.some.injEq]
            omega
          · simp only [Std.LawfulEqCmp.compare_eq_iff_eq, if_neg same] at after
            simp only [if_neg same, Nat.zero_add]
            exact after

theorem mem_freed_iff {degrees remaining : Std.ExtTreeMap TransactionId Nat}
    {entries : List (TransactionId × Nat)} {freed : List TransactionId}
    (deducted : deduct degrees entries = some (remaining, freed))
    (distinct : (entries.map (fun entry => entry.1)).Nodup) (transaction : TransactionId) :
    transaction ∈ freed ↔
      transaction ∈ entries.map (fun entry => entry.1) ∧ remaining[transaction]? = some 0 := by
  induction entries generalizing degrees freed with
  | nil =>
      cases deducted
      simp
  | cons entry rest ih =>
      obtain ⟨waiter, count⟩ := entry
      rw [List.map_cons, List.nodup_cons] at distinct
      simp only [deduct] at deducted
      rw [List.map_cons, List.mem_cons]
      split at deducted
      · rename_i unknown
        rw [ih deducted distinct.2]
        have absent := degrees_of_deduct deducted waiter
        rw [unknown] at absent
        have stillAbsent := Option.map_eq_none_iff.mp absent.symm
        constructor
        · intro both
          exact ⟨Or.inr both.1, both.2⟩
        · rintro ⟨rfl | later, zero⟩
          · rw [stillAbsent] at zero
            cases zero
          · exact ⟨later, zero⟩
      · rename_i degree known
        split at deducted
        · cases deducted
        · obtain ⟨⟨left, later⟩, fromRest, shape⟩ := Option.bind_eq_some_iff.mp deducted
          cases shape
          have atWaiter := degrees_of_deduct fromRest waiter
          rw [Std.ExtTreeMap.getElem?_insert_self, charge_eq_zero distinct.1] at atWaiter
          obtain ⟨residue, found, total⟩ := Option.map_eq_some_iff.mp atWaiter.symm
          have others := ih fromRest distinct.2
          by_cases same : transaction = waiter
          · subst transaction
            have notLater : waiter ∉ later := fun member => distinct.1 (others.mp member).1
            simp only [true_or, true_and, found, Option.some.injEq]
            by_cases exhausted : degree = count
            · simp only [if_pos exhausted, List.mem_cons_self, true_iff]
              omega
            · simp only [if_neg exhausted, notLater, false_iff]
              omega
          · simp only [same, false_or]
            rw [← others]
            split
            · simp [same]
            · exact Iff.rfl

theorem freed_nodup {degrees remaining : Std.ExtTreeMap TransactionId Nat}
    {entries : List (TransactionId × Nat)} {freed : List TransactionId}
    (deducted : deduct degrees entries = some (remaining, freed))
    (distinct : (entries.map (fun entry => entry.1)).Nodup) : freed.Nodup := by
  induction entries generalizing degrees freed with
  | nil =>
      cases deducted
      exact List.nodup_nil
  | cons entry rest ih =>
      obtain ⟨waiter, count⟩ := entry
      rw [List.map_cons, List.nodup_cons] at distinct
      simp only [deduct] at deducted
      split at deducted
      · exact ih deducted distinct.2
      · split at deducted
        · cases deducted
        · obtain ⟨⟨left, later⟩, fromRest, shape⟩ := Option.bind_eq_some_iff.mp deducted
          cases shape
          have laterNodup := ih fromRest distinct.2
          split
          · apply List.nodup_cons.mpr
            refine ⟨?_, laterNodup⟩
            intro member
            exact distinct.1 ((mem_freed_iff fromRest distinct.2 waiter).mp member).1
          · exact laterNodup

/-! ### Peeling -/

/-- How many waits of a transaction lie behind holders that did not come off yet. -/
def residual (waits : Finset Wait) (off : List TransactionId) (transaction : TransactionId) : Nat :=
  (waits.filter (fun wait => wait.waiter = transaction ∧ wait.holder ∉ off)).card

theorem residual_nil (waits : Finset Wait) (transaction : TransactionId) :
    residual waits [] transaction = load waits transaction := by
  simp [residual, load]

theorem holder_mem_of_residual_eq_zero {waits : Finset Wait} {off : List TransactionId}
    {transaction : TransactionId} (settled : residual waits off transaction = 0) {wait : Wait}
    (present : wait ∈ waits) (waiter : wait.waiter = transaction) : wait.holder ∈ off := by
  by_contra left
  have none := Finset.filter_eq_empty_iff.mp (Finset.card_eq_zero.mp settled) present
  exact none ⟨waiter, left⟩

theorem residual_cons {waits : Finset Wait} {off : List TransactionId} {holder : TransactionId}
    (fresh : holder ∉ off) (transaction : TransactionId) :
    residual waits off transaction =
      residual waits (holder :: off) transaction + multiplicity waits ⟨holder, transaction⟩ := by
  unfold residual multiplicity
  rw [← Finset.card_union_of_disjoint]
  · congr 1
    ext wait
    simp only [Finset.mem_filter, Finset.mem_union, List.mem_cons, not_or, Wait.edge,
      WaitEdge.mk.injEq]
    by_cases same : wait.holder = holder
    · subst holder
      simp [fresh]
    · simp [same]
  · rw [Finset.disjoint_left]
    intro wait left right
    have others := (Finset.mem_filter.mp left).2.2
    have sameHolder : wait.holder = holder :=
      congrArg WaitEdge.holder (Finset.mem_filter.mp right).2
    apply others
    rw [sameHolder]
    exact List.mem_cons_self

structure Lists (waitersOf : TransactionId → List (TransactionId × Nat))
    (waits : Finset Wait) : Prop where
  distinct : ∀ holder, ((waitersOf holder).map (fun entry => entry.1)).Nodup
  listed_iff : ∀ holder waiter, waiter ∈ (waitersOf holder).map (fun entry => entry.1) ↔
    0 < multiplicity waits ⟨holder, waiter⟩
  charge_eq : ∀ holder waiter,
    charge (waitersOf holder) waiter = multiplicity waits ⟨holder, waiter⟩

/-- Peeling has come as far as `off`: the degrees are what is left of them, and whoever is off or
ready waits behind no one that is left. -/
structure Peeled (waits : Finset Wait) (off : List TransactionId)
    (degrees : Std.ExtTreeMap TransactionId Nat) (ready : List TransactionId) : Prop where
  degree : ∀ transaction count, degrees[transaction]? = some count →
    count = residual waits off transaction
  known : ∀ transaction ∈ ready, transaction ∈ degrees
  nodup : ready.Nodup
  fresh : ∀ transaction ∈ ready, transaction ∉ off
  settled : ∀ transaction, transaction ∈ off ∨ transaction ∈ ready →
    residual waits off transaction = 0

theorem mem_degrees_of_deduct {degrees remaining : Std.ExtTreeMap TransactionId Nat}
    {entries : List (TransactionId × Nat)} {freed : List TransactionId}
    (deducted : deduct degrees entries = some (remaining, freed)) {transaction : TransactionId} :
    transaction ∈ remaining ↔ transaction ∈ degrees := by
  rw [← Std.ExtTreeMap.isSome_getElem?_iff_mem, ← Std.ExtTreeMap.isSome_getElem?_iff_mem,
    degrees_of_deduct deducted transaction, Option.isSome_map]

theorem Peeled.step {waitersOf : TransactionId → List (TransactionId × Nat)}
    {waits : Finset Wait} (lists : Lists waitersOf waits) {off : List TransactionId}
    {degrees remaining : Std.ExtTreeMap TransactionId Nat} {next : TransactionId}
    {ready freed : List TransactionId} (peeled : Peeled waits off degrees (next :: ready))
    (deducted : deduct degrees (waitersOf next) = some (remaining, freed)) :
    Peeled waits (next :: off) remaining (ready ++ freed) := by
  have nextFresh : next ∉ off := peeled.fresh next List.mem_cons_self
  have splits (transaction : TransactionId) : residual waits off transaction =
      residual waits (next :: off) transaction + multiplicity waits ⟨next, transaction⟩ :=
    residual_cons nextFresh transaction
  have freedIff := mem_freed_iff deducted (lists.distinct next)
  have readyNodup := List.nodup_cons.mp peeled.nodup
  -- A freed waiter was charged, so it waited behind someone left and was neither off nor ready.
  have freedUnsettled {transaction : TransactionId} (member : transaction ∈ freed) :
      residual waits off transaction ≠ 0 := by
    have positive := (lists.listed_iff next transaction).mp ((freedIff transaction).mp member).1
    have split := splits transaction
    omega
  have degreesLeft (transaction : TransactionId) (count : Nat)
      (found : remaining[transaction]? = some count) :
      count = residual waits (next :: off) transaction := by
    have before := degrees_of_deduct deducted transaction
    rw [found, lists.charge_eq] at before
    have total : count + multiplicity waits ⟨next, transaction⟩ =
        residual waits off transaction := peeled.degree transaction _ before
    have split := splits transaction
    omega
  constructor
  · exact degreesLeft
  · intro transaction member
    apply (mem_degrees_of_deduct deducted).mpr
    rcases List.mem_append.mp member with old | new
    · exact peeled.known transaction (List.mem_cons_of_mem next old)
    · apply (mem_degrees_of_deduct deducted).mp
      apply Std.ExtTreeMap.isSome_getElem?_iff_mem.mp
      rw [((freedIff transaction).mp new).2]
      rfl
  · apply List.nodup_append.mpr
    refine ⟨readyNodup.2, freed_nodup deducted (lists.distinct next), ?_⟩
    rintro old oldReady new newFreed rfl
    exact freedUnsettled newFreed
      (peeled.settled old (Or.inr (List.mem_cons_of_mem next oldReady)))
  · intro transaction member
    rw [List.mem_cons, not_or]
    rcases List.mem_append.mp member with old | new
    · refine ⟨?_, peeled.fresh transaction (List.mem_cons_of_mem next old)⟩
      rintro rfl
      exact readyNodup.1 old
    · constructor
      · rintro rfl
        exact freedUnsettled new (peeled.settled transaction (Or.inr List.mem_cons_self))
      · intro wasOff
        exact freedUnsettled new (peeled.settled transaction (Or.inl wasOff))
  · intro transaction where_
    have split := splits transaction
    rcases where_ with offNow | readyNow
    · have before : residual waits off transaction = 0 := by
        rcases List.mem_cons.mp offNow with rfl | wasOff
        · exact peeled.settled transaction (Or.inr List.mem_cons_self)
        · exact peeled.settled transaction (Or.inl wasOff)
      omega
    · rcases List.mem_append.mp readyNow with old | new
      · have before := peeled.settled transaction (Or.inr (List.mem_cons_of_mem next old))
        omega
      · exact (degreesLeft transaction 0 ((freedIff transaction).mp new).2).symm

theorem peel_ordered {waitersOf : TransactionId → List (TransactionId × Nat)}
    {waits : Finset Wait} (lists : Lists waitersOf waits) {bound : Nat}
    {off : List TransactionId} {degrees : Std.ExtTreeMap TransactionId Nat}
    {ready order : List TransactionId} (peeled : Peeled waits off degrees ready)
    (result : peel waitersOf bound degrees ready = some order) :
    order.Nodup ∧ (∀ transaction ∈ order, transaction ∉ off ∧ transaction ∈ degrees) ∧
      ∀ wait ∈ waits, wait.waiter ∈ order →
        wait.holder ∈ off ∨ order.idxOf wait.holder < order.idxOf wait.waiter := by
  induction bound generalizing off degrees ready order with
  | zero =>
      cases ready with
      | nil =>
          cases result
          simp
      | cons next rest => cases result
  | succ bound ih =>
      cases ready with
      | nil =>
          cases result
          simp
      | cons next rest =>
          simp only [peel] at result
          obtain ⟨⟨remaining, freed⟩, deducted, continued⟩ := Option.bind_eq_some_iff.mp result
          obtain ⟨later, peeledLater, shape⟩ := Option.bind_eq_some_iff.mp continued
          cases shape
          obtain ⟨laterNodup, laterPlace, laterOrder⟩ :=
            ih (peeled.step lists deducted) peeledLater
          have nextNotLater : next ∉ later := fun member =>
            (laterPlace next member).1 List.mem_cons_self
          refine ⟨List.nodup_cons.mpr ⟨nextNotLater, laterNodup⟩, ?_, ?_⟩
          · intro transaction member
            rcases List.mem_cons.mp member with rfl | inLater
            · exact ⟨peeled.fresh transaction List.mem_cons_self,
                peeled.known transaction List.mem_cons_self⟩
            · have place := laterPlace transaction inLater
              exact ⟨fun wasOff => place.1 (List.mem_cons_of_mem next wasOff),
                (mem_degrees_of_deduct deducted).mp place.2⟩
          · intro wait present waiterIn
            by_cases waiterNext : wait.waiter = next
            · left
              exact holder_mem_of_residual_eq_zero
                (peeled.settled next (Or.inr List.mem_cons_self)) present waiterNext
            · have waiterLater := (List.mem_cons.mp waiterIn).resolve_left waiterNext
              rw [List.idxOf_cons_ne later (Ne.symm waiterNext)]
              by_cases holderNext : wait.holder = next
              · right
                rw [holderNext, List.idxOf_cons_self]
                exact Nat.succ_pos _
              · rw [List.idxOf_cons_ne later (Ne.symm holderNext)]
                rcases laterOrder wait present waiterLater with offNow | before
                · left
                  exact (List.mem_cons.mp offNow).resolve_left holderNext
                · right
                  exact Nat.succ_lt_succ before

/-! ### Graphs without a cycle -/

theorem Tallies.lists {graph : WaitGraph} {waits : Finset Wait} (tallies : graph.Tallies waits) :
    Lists graph.waitersOf waits := by
  have distinctEdges : graph.edges.toList.Pairwise
      (fun left right => ¬compare left.1 right.1 = .eq) := graph.edges.distinct_keys_toList
  have mem_iff (holder waiter : TransactionId) (count : Nat) :
      (waiter, count) ∈ graph.waitersOf holder ↔
        graph.edges[WaitEdge.mk holder waiter]? = some count := by
    simp only [waitersOf, List.mem_map, List.mem_filter, beq_iff_eq, Prod.mk.injEq]
    constructor
    · rintro ⟨⟨edge, listed⟩, ⟨member, rfl⟩, rfl, rfl⟩
      exact Std.ExtTreeMap.mem_toList_iff_getElem?_eq_some.mp member
    · intro found
      exact ⟨(⟨holder, waiter⟩, count),
        ⟨Std.ExtTreeMap.mem_toList_iff_getElem?_eq_some.mpr found, rfl⟩, rfl, rfl⟩
  have distinct (holder : TransactionId) :
      ((graph.waitersOf holder).map (fun entry => entry.1)).Nodup := by
    unfold waitersOf
    rw [List.map_map, List.Nodup, List.pairwise_map, List.pairwise_filter]
    apply distinctEdges.imp
    intro left right different leftHolder rightHolder sameWaiter
    apply different
    have sameHolder : left.1.holder = right.1.holder :=
      (eq_of_beq leftHolder).trans (eq_of_beq rightHolder).symm
    have same : left.1 = right.1 := by
      cases leftEdge : left.1
      cases rightEdge : right.1
      rw [leftEdge, rightEdge] at sameHolder
      simp only [Function.comp_apply, leftEdge, rightEdge] at sameWaiter
      rw [WaitEdge.mk.injEq]
      exact ⟨sameHolder, sameWaiter⟩
    rw [same, Std.compare_self]
  have listed_iff (holder waiter : TransactionId) :
      waiter ∈ (graph.waitersOf holder).map (fun entry => entry.1) ↔
        0 < multiplicity waits ⟨holder, waiter⟩ := by
    simp only [List.mem_map, Prod.exists, exists_and_right, exists_eq_right, mem_iff,
      tallies.edge_iff]
    constructor
    · rintro ⟨count, positive, counted⟩
      rw [counted]
      exact positive
    · intro positive
      exact ⟨_, positive, rfl⟩
  refine ⟨distinct, listed_iff, ?_⟩
  intro holder waiter
  by_cases positive : 0 < multiplicity waits ⟨holder, waiter⟩
  · apply charge_of_mem (distinct holder)
    rw [mem_iff, tallies.edge_iff]
    exact ⟨positive, rfl⟩
  · rw [charge_eq_zero (mt (listed_iff holder waiter).mp positive)]
    exact (Nat.eq_zero_of_not_pos positive).symm

theorem Tallies.peeled {graph : WaitGraph} {waits : Finset Wait}
    (tallies : graph.Tallies waits) : Peeled waits [] graph.degrees graph.unblocked := by
  have mem_iff (transaction : TransactionId) :
      transaction ∈ graph.unblocked ↔ graph.degrees[transaction]? = some 0 := by
    simp only [unblocked, List.mem_map, List.mem_filter, beq_iff_eq]
    constructor
    · rintro ⟨⟨known, count⟩, ⟨member, rfl⟩, rfl⟩
      exact Std.ExtTreeMap.mem_toList_iff_getElem?_eq_some.mp member
    · intro found
      exact ⟨(transaction, 0),
        ⟨Std.ExtTreeMap.mem_toList_iff_getElem?_eq_some.mpr found, rfl⟩, rfl⟩
  constructor
  · intro transaction count found
    rw [residual_nil]
    exact tallies.degree transaction count found
  · intro transaction member
    apply Std.ExtTreeMap.isSome_getElem?_iff_mem.mp
    rw [(mem_iff transaction).mp member]
    rfl
  · unfold unblocked
    rw [List.Nodup, List.pairwise_map, List.pairwise_filter]
    apply graph.degrees.distinct_keys_toList.imp
    intro left right different _ _ same
    apply different
    rw [same, Std.compare_self]
  · intro transaction _
    exact List.not_mem_nil
  · rintro transaction (off | ready)
    · cases off
    · rw [residual_nil]
      exact (tallies.degree transaction 0 ((mem_iff transaction).mp ready)).symm

end RowStore.WaitGraph
