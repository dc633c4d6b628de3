import Mathlib.Data.Finset.Lattice.Fold
import Mathlib.Data.List.Perm.Subperm
import RowStore.Proofs.WaitGraph.Order

/-!
Circles: a graph that does not peel has one. Peeling ends, whatever the order, and takes everyone off
just when the waits can be ranked. New waits of one waiter can be ranked unless one of the holders
waits, directly or through others, behind that waiter.
-/

set_option autoImplicit false

namespace RowStore.WaitGraph

/-! ### Peeling everyone -/

theorem exists_deduct {degrees : Std.ExtTreeMap TransactionId Nat}
    {entries : List (TransactionId × Nat)}
    (enough : ∀ transaction degree, degrees[transaction]? = some degree →
      charge entries transaction ≤ degree) :
    ∃ remaining freed, deduct degrees entries = some (remaining, freed) := by
  induction entries generalizing degrees with
  | nil => exact ⟨degrees, [], rfl⟩
  | cons entry rest ih =>
      obtain ⟨waiter, count⟩ := entry
      simp only [deduct]
      split
      · apply ih
        intro transaction degree known
        have charged := enough transaction degree known
        rw [charge_cons] at charged
        exact Nat.le_of_add_left_le charged
      · rename_i degree known
        have atWaiter := enough waiter degree known
        rw [charge_cons, if_pos rfl] at atWaiter
        have affordable : ∀ transaction left,
            (degrees.insert waiter (degree - count))[transaction]? = some left →
              charge rest transaction ≤ left := by
          intro transaction left found
          rw [Std.ExtTreeMap.getElem?_insert] at found
          split at found
          · rename_i same
            rw [← Std.LawfulEqOrd.eq_of_compare same, ← Option.some.inj found]
            omega
          · have charged := enough transaction left found
            rw [charge_cons] at charged
            exact Nat.le_of_add_left_le charged
        obtain ⟨remaining, freed, deducted⟩ := ih affordable
        rw [if_neg (by omega), deducted]
        exact ⟨_, _, rfl⟩

theorem Peeled.exists_deduct {waitersOf : TransactionId → List (TransactionId × Nat)}
    {waits : Finset Wait} (lists : Lists waitersOf waits) {off : List TransactionId}
    {degrees : Std.ExtTreeMap TransactionId Nat} {next : TransactionId}
    {ready : List TransactionId} (peeled : Peeled waits off degrees (next :: ready)) :
    ∃ remaining freed, deduct degrees (waitersOf next) = some (remaining, freed) := by
  apply WaitGraph.exists_deduct
  intro transaction degree known
  rw [lists.charge_eq, peeled.degree transaction degree known,
    residual_cons (peeled.fresh next List.mem_cons_self)]
  exact Nat.le_add_left _ _

/-- Peeling misses nobody: whoever waits behind no one that is left is off or ready. -/
def Thorough (waits : Finset Wait) (off : List TransactionId)
    (degrees : Std.ExtTreeMap TransactionId Nat) (ready : List TransactionId) : Prop :=
  ∀ transaction ∈ degrees, residual waits off transaction = 0 →
    transaction ∈ off ∨ transaction ∈ ready

theorem Thorough.step {waitersOf : TransactionId → List (TransactionId × Nat)}
    {waits : Finset Wait} (lists : Lists waitersOf waits) {off : List TransactionId}
    {degrees remaining : Std.ExtTreeMap TransactionId Nat} {next : TransactionId}
    {ready freed : List TransactionId} (peeled : Peeled waits off degrees (next :: ready))
    (thorough : Thorough waits off degrees (next :: ready))
    (deducted : deduct degrees (waitersOf next) = some (remaining, freed)) :
    Thorough waits (next :: off) remaining (ready ++ freed) := by
  intro transaction left free
  have splits : residual waits off transaction =
      residual waits (next :: off) transaction + multiplicity waits ⟨next, transaction⟩ :=
    residual_cons (peeled.fresh next List.mem_cons_self) transaction
  by_cases charged : 0 < multiplicity waits ⟨next, transaction⟩
  · have listed := (lists.listed_iff next transaction).mpr charged
    have degreeLeft := (peeled.step lists deducted).degree transaction remaining[transaction]
      (Std.ExtTreeMap.getElem?_eq_some_getElem left)
    rw [free] at degreeLeft
    have zero : remaining[transaction]? = some 0 := by
      rw [Std.ExtTreeMap.getElem?_eq_some_getElem left, degreeLeft]
    right
    exact List.mem_append_right ready
      ((mem_freed_iff deducted (lists.distinct next) transaction).mpr ⟨listed, zero⟩)
  · have freeBefore : residual waits off transaction = 0 := by omega
    rcases thorough transaction ((mem_degrees_of_deduct deducted).mp left) freeBefore with
      wasOff | wasReady
    · exact Or.inl (List.mem_cons_of_mem next wasOff)
    · rcases List.mem_cons.mp wasReady with rfl | later
      · exact Or.inl List.mem_cons_self
      · exact Or.inr (List.mem_append_left freed later)

/-- When nobody is ready any more and the waits can be ranked, everyone has come off. -/
theorem Thorough.everyone_off {waits : Finset Wait} {off : List TransactionId}
    {degrees : Std.ExtTreeMap TransactionId Nat} (thorough : Thorough waits off degrees [])
    (ranked : Ranked waits) (known : ∀ wait ∈ waits, wait.holder ∈ degrees)
    {transaction : TransactionId} (member : transaction ∈ degrees) : transaction ∈ off := by
  obtain ⟨rank, increases⟩ := ranked
  induction height : rank transaction using Nat.strong_induction_on generalizing transaction with
  | _ bound ih =>
      have free : residual waits off transaction = 0 := by
        apply Finset.card_eq_zero.mpr
        apply Finset.filter_eq_empty_iff.mpr
        rintro wait present ⟨rfl, holderLeft⟩
        have lower : rank wait.holder < bound := height ▸ increases wait present
        exact holderLeft (ih _ lower (known wait present) rfl)
      exact (thorough transaction member free).resolve_right List.not_mem_nil

/-- Peeling that may go on for as long as someone is left ends, and has missed nobody then. -/
theorem exists_peel {waitersOf : TransactionId → List (TransactionId × Nat)}
    {waits : Finset Wait} (lists : Lists waitersOf waits) {everyone : List TransactionId}
    {bound : Nat} {off : List TransactionId} {degrees : Std.ExtTreeMap TransactionId Nat}
    {ready : List TransactionId} (members : ∀ transaction, transaction ∈ degrees ↔
      transaction ∈ everyone) (peeled : Peeled waits off degrees ready)
    (thorough : Thorough waits off degrees ready) (nodup : off.Nodup) (within : off ⊆ everyone)
    (enough : everyone.length ≤ bound + off.length) :
    ∃ order remaining, peel waitersOf bound degrees ready = some order ∧
      (∀ transaction, transaction ∈ remaining ↔ transaction ∈ everyone) ∧
        Thorough waits (order.reverse ++ off) remaining [] := by
  induction bound generalizing off degrees ready with
  | zero =>
      cases ready with
      | nil => exact ⟨[], degrees, by simp [peel], members, thorough⟩
      | cons next rest =>
          -- Everyone is off, and one more is ready.
          exfalso
          have nextKnown := (members next).mp (peeled.known next List.mem_cons_self)
          have more : (next :: off).Nodup :=
            List.nodup_cons.mpr ⟨peeled.fresh next List.mem_cons_self, nodup⟩
          have fits := List.subperm_of_subset more (List.cons_subset.mpr ⟨nextKnown, within⟩)
          have short := fits.length_le
          rw [List.length_cons] at short
          omega
  | succ bound ih =>
      cases ready with
      | nil => exact ⟨[], degrees, by simp [peel], members, thorough⟩
      | cons next rest =>
          have nextKnown := (members next).mp (peeled.known next List.mem_cons_self)
          obtain ⟨remaining, freed, deducted⟩ := peeled.exists_deduct lists
          obtain ⟨later, left, peeledLater, leftIff, missed⟩ := ih
            (fun transaction => (mem_degrees_of_deduct deducted).trans (members transaction))
            (peeled.step lists deducted) (thorough.step lists peeled deducted)
            (List.nodup_cons.mpr ⟨peeled.fresh next List.mem_cons_self, nodup⟩)
            (List.cons_subset.mpr ⟨nextKnown, within⟩)
            (by rw [List.length_cons]; omega)
          refine ⟨next :: later, left, ?_, leftIff, ?_⟩
          · simp only [peel, deducted, Option.bind_eq_bind, Option.bind_some, peeledLater,
              Option.pure_def]
          · rw [List.reverse_cons, List.append_assoc, List.singleton_append]
            exact missed

/-! ### Graphs without a cycle -/

/-- However waiters and ready transactions are listed, peeling a graph ends. It takes nobody off
twice, and everyone just when the waits can be ranked. -/
theorem Tallies.exists_order {graph : WaitGraph} {waits : Finset Wait}
    (tallies : graph.Tallies waits)
    {waitersOf : TransactionId → List (TransactionId × Nat)} (lists : Lists waitersOf waits)
    {ready : List TransactionId} (peeled : Peeled waits [] graph.degrees ready)
    (thorough : Thorough waits [] graph.degrees ready) :
    ∃ order, peel waitersOf graph.degrees.size graph.degrees ready = some order ∧ order.Nodup ∧
      (∀ transaction ∈ order, transaction ∈ graph.degrees) ∧
        (order.length = graph.degrees.size ↔ Ranked waits) := by
  have keysNodup : graph.degrees.keys.Nodup := by
    apply graph.degrees.distinct_keys.imp
    rintro first second different rfl
    exact different Std.compare_self
  have enough : graph.degrees.keys.length ≤
      graph.degrees.size + ([] : List TransactionId).length := by
    rw [Std.ExtTreeMap.length_keys]
    exact Nat.le_refl _
  obtain ⟨order, remaining, found, members, missed⟩ := exists_peel lists
    (fun transaction => Std.ExtTreeMap.mem_keys.symm) peeled thorough List.nodup_nil
    (List.nil_subset _) enough
  obtain ⟨orderNodup, place, ordered⟩ := peel_ordered lists peeled found
  have within : order ⊆ graph.degrees.keys := fun transaction member =>
    Std.ExtTreeMap.mem_keys.mpr (place transaction member).2
  have fits := List.subperm_of_subset orderNodup within
  refine ⟨order, found, orderNodup, fun transaction member => (place transaction member).2, ?_⟩
  rw [← Std.ExtTreeMap.length_keys]
  constructor
  · intro sameLength
    have everyoneOff : graph.degrees.keys ⊆ order :=
      (fits.perm_of_length_le (Nat.le_of_eq sameLength.symm)).symm.subset
    refine ⟨order.idxOf, ?_⟩
    intro wait present
    have waiterOff := everyoneOff (Std.ExtTreeMap.mem_keys.mpr (tallies.known wait present).2)
    rcases ordered wait present waiterOff with impossible | before
    · cases impossible
    · exact before
  · intro ranked
    have known : ∀ wait ∈ waits, wait.holder ∈ remaining := fun wait present =>
      (members _).mpr (Std.ExtTreeMap.mem_keys.mpr (tallies.known wait present).1)
    have everyoneOff : graph.degrees.keys ⊆ order := by
      intro transaction member
      have off := missed.everyone_off ranked known ((members transaction).mpr member)
      rwa [List.append_nil, List.mem_reverse] at off
    exact Nat.le_antisymm fits.length_le
      (List.subperm_of_subset keysNodup everyoneOff).length_le

theorem Tallies.thorough {graph : WaitGraph} {waits : Finset Wait}
    (tallies : graph.Tallies waits) : Thorough waits [] graph.degrees graph.unblocked := by
  intro transaction member free
  have found := Std.ExtTreeMap.getElem?_eq_some_getElem member
  have zero := tallies.degree transaction _ found
  rw [residual_nil] at free
  rw [zero, free] at found
  right
  simp only [unblocked, List.mem_map, List.mem_filter, beq_iff_eq]
  exact ⟨(transaction, 0), ⟨Std.ExtTreeMap.mem_toList_iff_getElem?_eq_some.mpr found, rfl⟩, rfl⟩

theorem Tallies.isAcyclic_iff {graph : WaitGraph} {waits : Finset Wait}
    (tallies : graph.Tallies waits) : graph.isAcyclic = true ↔ Ranked waits := by
  obtain ⟨order, found, _, _, complete⟩ :=
    tallies.exists_order tallies.lists tallies.peeled tallies.thorough
  unfold isAcyclic
  rw [found, ← complete]
  exact beq_iff_eq

/-! ### Waits that close no circle -/

/-- New waits of one waiter leave the waits ranked if it waits behind none that wait behind it. -/
theorem Ranked.union {waits more : Finset Wait} (ranked : Ranked waits) {waiter : TransactionId}
    (its : ∀ wait ∈ more, wait.waiter = waiter)
    (apart : ∀ wait ∈ more, ¬Relation.ReflTransGen (Behind waits) waiter wait.holder) :
    Ranked (waits ∪ more) := by
  classical
  obtain ⟨rank, increases⟩ := ranked
  -- Those behind the waiter, and it, move up past all the holders that it waits behind now.
  let lift := 1 + more.sup (fun wait => rank wait.holder)
  let raised (transaction : TransactionId) : Nat :=
    if Relation.ReflTransGen (Behind waits) waiter transaction then rank transaction + lift
    else rank transaction
  have atLeast (transaction : TransactionId) : rank transaction ≤ raised transaction := by
    simp only [raised]
    split <;> omega
  refine ⟨raised, ?_⟩
  intro wait member
  rcases Finset.mem_union.mp member with present | new
  · have climbs := increases wait present
    by_cases reached : Relation.ReflTransGen (Behind waits) waiter wait.holder
    · have further : Relation.ReflTransGen (Behind waits) waiter wait.waiter :=
        reached.tail ⟨wait.page, present⟩
      simp only [raised, if_pos reached, if_pos further]
      omega
    · have above := atLeast wait.waiter
      simp only [raised, if_neg reached]
      exact Nat.lt_of_lt_of_le climbs above
  · have below : rank wait.holder ≤ more.sup (fun wait => rank wait.holder) :=
      Finset.le_sup (f := fun wait => rank wait.holder) new
    simp only [raised, if_neg (apart wait new), its wait new, if_pos Relation.ReflTransGen.refl,
      lift]
    omega

end RowStore.WaitGraph
