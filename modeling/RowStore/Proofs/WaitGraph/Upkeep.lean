import RowStore.Proofs.WaitGraph.Circles

/-!
Upkeep: what the updates of a wait graph do to its waits, and that they keep a graph consistent.
A consistent graph counts its waits rightly, and nobody in it waits in a circle.
-/

set_option autoImplicit false

namespace RowStore.WaitGraph

/-- Edges and degrees count the waits, and the waits can be ranked. -/
structure Consistent (graph : WaitGraph) : Prop where
  tallies : graph.Tallies graph.waitSet
  ranked : Ranked graph.waitSet

theorem consistent_empty : WaitGraph.empty.Consistent := by
  have nothing : WaitGraph.empty.waitSet = ∅ := by
    ext wait
    simp [empty]
  constructor
  · rw [nothing]
    exact tallies_empty
  · rw [nothing]
    exact ⟨fun _ => 0, fun wait present => absurd present (Finset.notMem_empty wait)⟩

theorem Consistent.hasEdge_iff {graph : WaitGraph} (consistent : graph.Consistent)
    {holder waiter : TransactionId} :
    graph.hasEdge holder waiter = true ↔ Behind graph.waitSet holder waiter :=
  consistent.tallies.hasEdge_iff

/-! ### Waits that end -/

private theorem Tallies.foldl_unlink {graph : WaitGraph} {waits : Finset Wait}
    (tallies : graph.Tallies waits) {ended : List Wait} (nodup : ended.Nodup)
    (present : ∀ wait ∈ ended, wait ∈ waits) :
    (ended.foldl (fun current wait => current.unlink wait.edge) graph).Tallies
      (waits \ ended.toFinset) := by
  induction ended generalizing graph waits with
  | nil => simpa using tallies
  | cons wait rest ih =>
      obtain ⟨notLater, restNodup⟩ := List.nodup_cons.mp nodup
      have first := tallies.unlink (present wait List.mem_cons_self)
      have later := ih first restNodup (by
        intro other member
        apply Finset.mem_erase.mpr
        refine ⟨?_, present other (List.mem_cons_of_mem wait member)⟩
        rintro rfl
        exact notLater member)
      rw [List.foldl_cons, List.toFinset_cons, Finset.sdiff_insert]
      rwa [Finset.erase_sdiff_comm] at later

theorem mem_waits_endWaits {graph : WaitGraph} {picked : Wait → Bool} {wait : Wait} :
    wait ∈ (graph.endWaits picked).waits ↔ wait ∈ graph.waits ∧ picked wait = false := by
  simp [endWaits]

theorem Consistent.endWaits {graph : WaitGraph} (consistent : graph.Consistent)
    (picked : Wait → Bool) : (graph.endWaits picked).Consistent := by
  have fewer : (graph.endWaits picked).waitSet ⊆ graph.waitSet := by
    intro wait member
    exact mem_waitSet.mpr (mem_waits_endWaits.mp (mem_waitSet.mp member)).1
  have left : (graph.endWaits picked).waitSet =
      graph.waitSet \ (graph.waits.toList.filter picked).toFinset := by
    ext wait
    simp only [mem_waitSet, mem_waits_endWaits, Finset.mem_sdiff, List.mem_toFinset,
      List.mem_filter, Std.ExtTreeSet.mem_toList]
    cases picked wait <;> simp
  refine ⟨?_, consistent.ranked.mono fewer⟩
  have nodup : graph.waits.toList.Nodup := by
    apply graph.waits.distinct_toList.imp
    rintro first second different rfl
    exact different Std.compare_self
  have cleared := consistent.tallies.foldl_unlink (nodup.filter picked) (by
    intro wait member
    simpa using (List.mem_filter.mp member).1)
  rw [left]
  exact ⟨cleared.edge_iff, cleared.degree, cleared.known⟩

theorem mem_waits_release {graph : WaitGraph} {holder : TransactionId} {page : PageId}
    {wait : Wait} :
    wait ∈ (graph.release holder page).waits ↔
      wait ∈ graph.waits ∧ ¬(wait.holder = holder ∧ wait.page = page) := by
  simp [release, mem_waits_endWaits]

theorem mem_waits_resolve {graph : WaitGraph} {waiter : TransactionId} {page : PageId}
    {wait : Wait} :
    wait ∈ (graph.resolve waiter page).waits ↔
      wait ∈ graph.waits ∧ ¬(wait.waiter = waiter ∧ wait.page = page) := by
  simp [resolve, mem_waits_endWaits]

theorem waitSet_release (graph : WaitGraph) (holder : TransactionId) (page : PageId) :
    (graph.release holder page).waitSet =
      graph.waitSet.filter (fun wait => ¬(wait.holder = holder ∧ wait.page = page)) := by
  ext wait
  simp only [mem_waitSet, mem_waits_release, Finset.mem_filter]

theorem waitSet_resolve (graph : WaitGraph) (waiter : TransactionId) (page : PageId) :
    (graph.resolve waiter page).waitSet =
      graph.waitSet.filter (fun wait => ¬(wait.waiter = waiter ∧ wait.page = page)) := by
  ext wait
  simp only [mem_waitSet, mem_waits_resolve, Finset.mem_filter]

theorem Consistent.release {graph : WaitGraph} (consistent : graph.Consistent)
    (holder : TransactionId) (page : PageId) : (graph.release holder page).Consistent :=
  consistent.endWaits _

theorem Consistent.resolve {graph : WaitGraph} (consistent : graph.Consistent)
    (waiter : TransactionId) (page : PageId) : (graph.resolve waiter page).Consistent :=
  consistent.endWaits _

/-! ### Transactions that are over -/

private theorem getElem?_foldl_lighten (degrees : Std.ExtTreeMap TransactionId Nat)
    (entries : List (TransactionId × Nat)) (transaction : TransactionId) :
    (entries.foldl (fun current entry => current.modify entry.1 (· - entry.2))
      degrees)[transaction]? = degrees[transaction]?.map (· - charge entries transaction) := by
  induction entries generalizing degrees with
  | nil => simp [charge]
  | cons entry rest ih =>
      rw [List.foldl_cons, ih, Std.ExtTreeMap.getElem?_modify, charge_cons]
      by_cases same : entry.1 = transaction
      · subst transaction
        simp only [Std.compare_self, if_true, Option.map_map, Function.comp_def, Nat.sub_sub]
      · simp only [Std.LawfulEqCmp.compare_eq_iff_eq, if_neg same, Nat.zero_add]

theorem mem_waits_remove {graph : WaitGraph} {transaction : TransactionId} {wait : Wait} :
    wait ∈ (graph.remove transaction).waits ↔
      wait ∈ graph.waits ∧ wait.holder ≠ transaction ∧ wait.waiter ≠ transaction := by
  simp only [remove, Wait.touches, WaitEdge.touches, Wait.edge, Std.ExtTreeSet.mem_filter,
    Std.ExtTreeSet.get_eq, Bool.not_eq_true', Bool.or_eq_false_iff, beq_eq_false_iff_ne, ne_eq,
    exists_prop]

theorem waitSet_remove (graph : WaitGraph) (transaction : TransactionId) :
    (graph.remove transaction).waitSet =
      graph.waitSet.filter
        (fun wait => wait.holder ≠ transaction ∧ wait.waiter ≠ transaction) := by
  ext wait
  simp only [mem_waitSet, mem_waits_remove, Finset.mem_filter]

private theorem multiplicity_filter_touches (waits : Finset Wait) (removed : TransactionId)
    (edge : WaitEdge) :
    multiplicity (waits.filter (fun wait => wait.holder ≠ removed ∧ wait.waiter ≠ removed)) edge =
      if edge.touches removed then 0 else multiplicity waits edge := by
  unfold multiplicity
  rw [Finset.filter_filter]
  by_cases touched : edge.touches removed = true
  · rw [if_pos touched, Finset.card_eq_zero, Finset.filter_eq_empty_iff]
    rintro wait _ ⟨untouched, rfl⟩
    simp only [WaitEdge.touches, Wait.edge, Bool.or_eq_true, beq_iff_eq] at touched
    exact touched.elim untouched.1 untouched.2
  · rw [if_neg touched]
    congr 1
    ext wait
    simp only [Finset.mem_filter, and_congr_right_iff, and_iff_right_iff_imp]
    rintro _ rfl
    simpa [WaitEdge.touches, Wait.edge] using touched

private theorem load_filter_touches (waits : Finset Wait) {removed transaction : TransactionId}
    (different : transaction ≠ removed) :
    load waits transaction =
      load (waits.filter (fun wait => wait.holder ≠ removed ∧ wait.waiter ≠ removed)) transaction +
        multiplicity waits ⟨removed, transaction⟩ := by
  unfold load multiplicity
  rw [← Finset.card_union_of_disjoint]
  · congr 1
    ext wait
    simp only [Finset.mem_filter, Finset.mem_union, Wait.edge, WaitEdge.mk.injEq]
    by_cases same : wait.holder = removed
    · simp [same]
    · simp only [same, ne_eq, not_false_eq_true, true_and, false_and, and_false, or_false]
      constructor
      · rintro ⟨present, rfl⟩
        exact ⟨⟨present, different⟩, rfl⟩
      · rintro ⟨⟨present, _⟩, atWaiter⟩
        exact ⟨present, atWaiter⟩
  · rw [Finset.disjoint_left]
    intro wait left right
    have sameHolder : wait.holder = removed :=
      congrArg WaitEdge.holder (Finset.mem_filter.mp right).2
    exact (Finset.mem_filter.mp (Finset.mem_filter.mp left).1).2.1 sameHolder

theorem Consistent.remove {graph : WaitGraph} (consistent : graph.Consistent)
    (transaction : TransactionId) : (graph.remove transaction).Consistent := by
  have degreeAt (other : TransactionId) :
      (graph.remove transaction).degrees[other]? =
        if transaction = other then none
        else graph.degrees[other]?.map
          (· - multiplicity graph.waitSet ⟨transaction, other⟩) := by
    simp only [WaitGraph.remove, Std.ExtTreeMap.getElem?_erase, getElem?_foldl_lighten,
      consistent.tallies.lists.charge_eq, Std.LawfulEqCmp.compare_eq_iff_eq]
  constructor
  · rw [waitSet_remove]
    constructor
    · intro edge count
      simp only [WaitGraph.remove, Std.ExtTreeMap.getElem?_filter', Option.filter_eq_some_iff,
        consistent.tallies.edge_iff]
      rw [multiplicity_filter_touches]
      cases edge.touches transaction
      · simp
      · simp only [Bool.not_true, Bool.false_eq_true, and_false, if_true, false_iff]
        omega
    · intro other count found
      rw [degreeAt] at found
      split at found
      · cases found
      · rename_i different
        obtain ⟨before, foundBefore, rfl⟩ := Option.map_eq_some_iff.mp found
        have counts := consistent.tallies.degree other before foundBefore
        have splits := load_filter_touches graph.waitSet (Ne.symm different)
        omega
    · intro wait remaining
      obtain ⟨present, notHolder, notWaiter⟩ := Finset.mem_filter.mp remaining
      have both := consistent.tallies.known wait present
      have stays {other : TransactionId} (different : other ≠ transaction)
          (known : other ∈ graph.degrees) : other ∈ (graph.remove transaction).degrees := by
        rw [← Std.ExtTreeMap.isSome_getElem?_iff_mem, degreeAt, if_neg (Ne.symm different),
          Option.isSome_map]
        exact Std.ExtTreeMap.isSome_getElem?_iff_mem.mpr known
      exact ⟨stays notHolder both.1, stays notWaiter both.2⟩
  · rw [waitSet_remove]
    exact consistent.ranked.mono (Finset.filter_subset _ _)

/-! ### New waits -/

private theorem Tallies.foldl_meet {graph : WaitGraph} {waits : Finset Wait}
    (tallies : graph.Tallies waits) (met : List TransactionId) :
    (met.foldl WaitGraph.meet graph).Tallies waits := by
  induction met generalizing graph with
  | nil => exact tallies
  | cons transaction rest ih => exact ih (tallies.meet transaction)

private theorem waits_foldl_meet (graph : WaitGraph) (met : List TransactionId) :
    (met.foldl WaitGraph.meet graph).waits = graph.waits := by
  induction met generalizing graph with
  | nil => rfl
  | cons transaction rest ih => exact ih (graph.meet transaction)

theorem mem_degrees_foldl_meet {graph : WaitGraph} {met : List TransactionId}
    {transaction : TransactionId} :
    transaction ∈ (met.foldl WaitGraph.meet graph).degrees ↔
      transaction ∈ met ∨ transaction ∈ graph.degrees := by
  induction met generalizing graph with
  | nil => simp
  | cons other rest ih =>
      rw [List.foldl_cons, ih, mem_degrees_meet, List.mem_cons]
      exact or_left_comm.trans or_assoc.symm

def waitsBehind (waiter : TransactionId) (page : PageId) (holders : List TransactionId) :
    List Wait :=
  holders.map (fun holder => ⟨holder, page, waiter⟩)

private theorem waits_linked (graph : WaitGraph) (waiter : TransactionId)
    (holders : List TransactionId) : (graph.linked waiter holders).waits = graph.waits := by
  unfold linked
  induction holders generalizing graph with
  | nil => rfl
  | cons holder rest ih =>
      rw [List.foldl_cons, ih, waits_link]

private theorem Tallies.linked {graph : WaitGraph} {waits : Finset Wait}
    (tallies : graph.Tallies waits) (waiter : TransactionId) (page : PageId)
    {holders : List TransactionId} (nodup : holders.Nodup)
    (fresh : ∀ holder ∈ holders, ⟨holder, page, waiter⟩ ∉ waits)
    (known : ∀ holder ∈ holders, holder ∈ graph.degrees) :
    (graph.linked waiter holders).Tallies
      (waits ∪ (waitsBehind waiter page holders).toFinset) := by
  unfold WaitGraph.linked
  induction holders generalizing graph waits with
  | nil => simpa [waitsBehind] using tallies
  | cons holder rest ih =>
      obtain ⟨notLater, restNodup⟩ := List.nodup_cons.mp nodup
      have first : (graph.link ⟨holder, waiter⟩).Tallies
          (insert ⟨holder, page, waiter⟩ waits) :=
        tallies.link (fresh holder List.mem_cons_self) (known holder List.mem_cons_self)
      have later := ih first restNodup (by
        intro other member present
        rcases Finset.mem_insert.mp present with same | old
        · have sameHolder : other = holder := congrArg Wait.holder same
          exact notLater (sameHolder ▸ member)
        · exact fresh other (List.mem_cons_of_mem holder member) old) (by
        intro other member
        have before := known other (List.mem_cons_of_mem holder member)
        simp [WaitGraph.link, before])
      rw [List.foldl_cons]
      have same : insert ⟨holder, page, waiter⟩ waits ∪ (waitsBehind waiter page rest).toFinset =
          waits ∪ (waitsBehind waiter page (holder :: rest)).toFinset := by
        rw [waitsBehind, waitsBehind, List.map_cons, List.toFinset_cons, Finset.insert_union,
          Finset.union_insert]
      rw [← same]
      exact later

theorem mem_newHolders {graph : WaitGraph} {waiter : TransactionId} {page : PageId}
    {holders : List TransactionId} {holder : TransactionId} :
    holder ∈ graph.newHolders waiter page holders ↔
      holder ∈ holders ∧ holder ≠ waiter ∧ ⟨holder, page, waiter⟩ ∉ graph.waits := by
  simp only [newHolders, List.mem_eraseDups, List.mem_filter, Bool.and_eq_true, bne_iff_ne, ne_eq,
    Bool.not_eq_true', Std.ExtTreeSet.mem_iff_contains, Bool.not_eq_true]

private theorem nodup_eraseDups (holders : List TransactionId) : holders.eraseDups.Nodup := by
  induction counted : holders.length using Nat.strong_induction_on generalizing holders with
  | _ count ih =>
      cases holders with
      | nil => exact List.nodup_nil
      | cons holder rest =>
          rw [List.eraseDups_cons, List.nodup_cons]
          constructor
          · simp [List.mem_eraseDups]
          · apply ih _ _ _ rfl
            rw [← counted]
            exact Nat.lt_succ_of_le (List.length_filter_le _ rest)

private def introduce (graph : WaitGraph) (waiter : TransactionId) (page : PageId)
    (holders : List TransactionId) : WaitGraph :=
  (graph.newHolders waiter page holders).foldl WaitGraph.meet (graph.meet waiter)

private theorem waits_introduce (graph : WaitGraph) (waiter : TransactionId) (page : PageId)
    (holders : List TransactionId) :
    (graph.introduce waiter page holders).waits = graph.waits := by
  unfold introduce
  rw [waits_foldl_meet, waits_meet]

private theorem waitSet_introduce (graph : WaitGraph) (waiter : TransactionId) (page : PageId)
    (holders : List TransactionId) :
    (graph.introduce waiter page holders).waitSet = graph.waitSet := by
  unfold waitSet
  rw [waits_introduce]

private theorem Consistent.introduce {graph : WaitGraph} (consistent : graph.Consistent)
    (waiter : TransactionId) (page : PageId) (holders : List TransactionId) :
    (graph.introduce waiter page holders).Consistent := by
  constructor
  · rw [waitSet_introduce]
    exact (consistent.tallies.meet waiter).foldl_meet _
  · rw [waitSet_introduce]
    exact consistent.ranked

private theorem Consistent.tallies_linked {graph : WaitGraph} (consistent : graph.Consistent)
    (waiter : TransactionId) (page : PageId) (holders : List TransactionId) :
    ((graph.introduce waiter page holders).linked waiter
      (graph.newHolders waiter page holders)).Tallies (graph.waitSet ∪
        (waitsBehind waiter page (graph.newHolders waiter page holders)).toFinset) := by
  rw [← waitSet_introduce graph waiter page holders]
  apply (consistent.introduce waiter page holders).tallies.linked waiter page (nodup_eraseDups _)
  · intro holder member
    rw [waitSet_introduce, mem_waitSet]
    exact (mem_newHolders.mp member).2.2
  · intro holder member
    exact mem_degrees_foldl_meet.mpr (Or.inl member)

theorem mem_degrees_linked {graph : WaitGraph} {waiter transaction : TransactionId}
    (known : waiter ∈ graph.degrees) (holders : List TransactionId) :
    transaction ∈ (graph.linked waiter holders).degrees ↔ transaction ∈ graph.degrees := by
  unfold linked
  induction holders generalizing graph with
  | nil => rfl
  | cons holder rest ih =>
      have same {other : TransactionId} :
          other ∈ (graph.link ⟨holder, waiter⟩).degrees ↔ other ∈ graph.degrees := by
        simp only [link, Std.ExtTreeMap.mem_insert, Std.LawfulEqCmp.compare_eq_iff_eq]
        constructor
        · rintro (rfl | before)
          · exact known
          · exact before
        · exact Or.inr
      rw [List.foldl_cons, ih (same.mpr known), same]

theorem mem_degrees_unlinked {graph : WaitGraph} {waiter transaction : TransactionId}
    (holders : List TransactionId) :
    transaction ∈ (graph.unlinked waiter holders).degrees ↔ transaction ∈ graph.degrees := by
  unfold unlinked
  induction holders generalizing graph with
  | nil => rfl
  | cons holder rest ih => rw [List.foldl_cons, ih, mem_degrees_unlink]

theorem mem_degrees_introduced {graph : WaitGraph} {waiter transaction : TransactionId}
    {fresh : List TransactionId} :
    transaction ∈ (fresh.foldl meet (graph.meet waiter)).degrees ↔
      transaction ∈ fresh ∨ transaction = waiter ∨ transaction ∈ graph.degrees := by
  rw [mem_degrees_foldl_meet, mem_degrees_meet]

private theorem waits_unlinked (graph : WaitGraph) (waiter : TransactionId)
    (holders : List TransactionId) : (graph.unlinked waiter holders).waits = graph.waits := by
  unfold unlinked
  induction holders generalizing graph with
  | nil => rfl
  | cons holder rest ih => rw [List.foldl_cons, ih, waits_unlink]

/-- Edges that close a cycle are taken back one by one, and that gives the graph before them. -/
private theorem Consistent.unlinked_linked {graph : WaitGraph} (consistent : graph.Consistent)
    (waiter : TransactionId) (page : PageId) (holders : List TransactionId) :
    ((graph.introduce waiter page holders).linked waiter
        (graph.newHolders waiter page holders)).unlinked waiter
        (graph.newHolders waiter page holders) = graph.introduce waiter page holders := by
  have introduced := consistent.introduce waiter page holders
  have nodup : (waitsBehind waiter page (graph.newHolders waiter page holders)).Nodup :=
    (nodup_eraseDups _).map (fun _ _ same => congrArg Wait.holder same)
  have apart : Disjoint graph.waitSet
      (waitsBehind waiter page (graph.newHolders waiter page holders)).toFinset := by
    rw [Finset.disjoint_right]
    intro wait member present
    obtain ⟨holder, fresh, rfl⟩ := List.mem_map.mp (List.mem_toFinset.mp member)
    exact (mem_newHolders.mp fresh).2.2 (mem_waitSet.mp present)
  have undone := (consistent.tallies_linked waiter page holders).foldl_unlink nodup
    (fun wait member => Finset.mem_union_right _ (List.mem_toFinset.mpr member))
  rw [Finset.union_sdiff_cancel_right apart, waitsBehind, List.foldl_map,
    ← waitSet_introduce graph waiter page holders] at undone
  refine introduced.tallies.eq_of_known undone ?_ ?_
  · intro transaction
    have known : waiter ∈ (graph.introduce waiter page holders).degrees :=
      mem_degrees_introduced.mpr (.inr (.inl rfl))
    exact (mem_degrees_unlinked _).trans (mem_degrees_linked known _)
  · exact (waits_unlinked _ _ _).trans (waits_linked _ _ _)

private theorem Consistent.extend {graph : WaitGraph} (consistent : graph.Consistent)
    {waiter : TransactionId} {page : PageId} {holders : List TransactionId} {next : WaitGraph}
    (shape : next = { (graph.introduce waiter page holders).linked waiter
        (graph.newHolders waiter page holders) with
      waits := ((graph.introduce waiter page holders).linked waiter
        (graph.newHolders waiter page holders)).waits.insertMany
          (waitsBehind waiter page (graph.newHolders waiter page holders)) })
    (acyclic : ((graph.introduce waiter page holders).linked waiter
      (graph.newHolders waiter page holders)).isAcyclic = true) :
    next.Consistent ∧ ∀ wait, wait ∈ next.waits ↔
      wait ∈ graph.waits ∨ wait ∈ waitsBehind waiter page (graph.newHolders waiter page holders) := by
  have tallies := consistent.tallies_linked waiter page holders
  have mem_iff (wait : Wait) : wait ∈ next.waits ↔
      wait ∈ graph.waits ∨ wait ∈ waitsBehind waiter page (graph.newHolders waiter page holders) := by
    rw [shape, Std.ExtTreeSet.mem_insertMany_list, waits_linked, waits_introduce,
      List.contains_iff_mem]
  have grown : next.waitSet = graph.waitSet ∪
      (waitsBehind waiter page (graph.newHolders waiter page holders)).toFinset := by
    ext wait
    rw [mem_waitSet, mem_iff, Finset.mem_union, mem_waitSet, List.mem_toFinset]
  refine ⟨⟨?_, ?_⟩, mem_iff⟩
  · rw [grown, shape]
    exact ⟨tallies.edge_iff, tallies.degree, tallies.known⟩
  · rw [grown]
    exact tallies.isAcyclic_iff.mp acyclic

theorem Consistent.addWaits_true {graph next : WaitGraph} {waiter : TransactionId}
    {page : PageId} {holders : List TransactionId} (consistent : graph.Consistent)
    (added : graph.addWaits waiter page holders = (next, true)) :
    next.Consistent ∧ ∀ wait, wait ∈ next.waits ↔ wait ∈ graph.waits ∨
      (wait.waiter = waiter ∧ wait.page = page ∧ wait.holder ∈ holders ∧ wait.holder ≠ waiter) := by
  have new_iff (wait : Wait) :
      wait ∈ graph.waits ∨ wait ∈ waitsBehind waiter page (graph.newHolders waiter page holders) ↔
        wait ∈ graph.waits ∨ (wait.waiter = waiter ∧ wait.page = page ∧
          wait.holder ∈ holders ∧ wait.holder ≠ waiter) := by
    obtain ⟨holder, onPage, of⟩ := wait
    simp only [waitsBehind, List.mem_map, mem_newHolders, Wait.mk.injEq]
    constructor
    · rintro (old | ⟨behind, ⟨member, other, _⟩, rfl, rfl, rfl⟩)
      · exact Or.inl old
      · exact Or.inr ⟨rfl, rfl, member, other⟩
    · rintro (old | ⟨rfl, rfl, member, other⟩)
      · exact Or.inl old
      · by_cases old : ⟨holder, onPage, of⟩ ∈ graph.waits
        · exact Or.inl old
        · exact Or.inr ⟨holder, ⟨member, other, old⟩, rfl, rfl, rfl⟩
  simp only [WaitGraph.addWaits] at added
  split at added
  · rename_i nothing
    cases added
    refine ⟨consistent.introduce waiter page holders, ?_⟩
    intro wait
    rw [← new_iff]
    change wait ∈ (graph.introduce waiter page holders).waits ↔ _
    rw [waits_introduce, List.isEmpty_iff.mp nothing]
    simp [waitsBehind]
  · split at added
    · rename_i acyclic
      obtain ⟨nextConsistent, mem_iff⟩ :=
        consistent.extend (congrArg Prod.fst added).symm acyclic
      exact ⟨nextConsistent, fun wait => (mem_iff wait).trans (new_iff wait)⟩
    · cases added

theorem Consistent.waitSet_addWaits {graph next : WaitGraph} {waiter : TransactionId}
    {page : PageId} {holders : List TransactionId} (consistent : graph.Consistent)
    (added : graph.addWaits waiter page holders = (next, true)) :
    next.waitSet = graph.waitSet ∪
      (waitsBehind waiter page (holders.filter (· ≠ waiter))).toFinset := by
  ext wait
  obtain ⟨holder, onPage, of⟩ := wait
  simp only [mem_waitSet, (consistent.addWaits_true added).2, Finset.mem_union, List.mem_toFinset,
    waitsBehind, List.mem_map, List.mem_filter, decide_eq_true_eq, Wait.mk.injEq]
  constructor
  · rintro (old | ⟨rfl, rfl, member, other⟩)
    · exact Or.inl old
    · exact Or.inr ⟨holder, ⟨member, other⟩, rfl, rfl, rfl⟩
  · rintro (old | ⟨behind, ⟨member, other⟩, rfl, rfl, rfl⟩)
    · exact Or.inl old
    · exact Or.inr ⟨rfl, rfl, member, other⟩

/-- A refusal leaves the graph as it was, but for those who became known by it. -/
theorem Consistent.eq_of_addWaits_false {graph next : WaitGraph} {waiter : TransactionId}
    {page : PageId} {holders : List TransactionId} (consistent : graph.Consistent)
    (refused : graph.addWaits waiter page holders = (next, false)) :
    next = (graph.newHolders waiter page holders).foldl meet (graph.meet waiter) := by
  simp only [WaitGraph.addWaits] at refused
  split at refused
  · cases refused
  · split at refused
    · cases refused
    · cases refused
      exact consistent.unlinked_linked waiter page holders

theorem Consistent.addWaits_false {graph next : WaitGraph} {waiter : TransactionId}
    {page : PageId} {holders : List TransactionId} (consistent : graph.Consistent)
    (refused : graph.addWaits waiter page holders = (next, false)) :
    next.Consistent ∧ next.waits = graph.waits := by
  rw [consistent.eq_of_addWaits_false refused]
  exact ⟨consistent.introduce waiter page holders, graph.waits_introduce waiter page holders⟩

/-- New waits are refused exactly when one of the holders waits, directly or through others, behind
the waiter. -/
theorem Consistent.addWaits_eq_false_iff {graph : WaitGraph} (consistent : graph.Consistent)
    (waiter : TransactionId) (page : PageId) (holders : List TransactionId) :
    (graph.addWaits waiter page holders).2 = false ↔ ∃ holder ∈ holders, holder ≠ waiter ∧
      Relation.TransGen (Behind graph.waitSet) waiter holder := by
  constructor
  · intro refused
    by_contra noCircle
    have ranked : Ranked (graph.waitSet ∪
        (waitsBehind waiter page (graph.newHolders waiter page holders)).toFinset) := by
      have its : ∀ wait ∈ (waitsBehind waiter page (graph.newHolders waiter page holders)).toFinset,
          wait.waiter = waiter := by
        intro wait member
        obtain ⟨holder, _, rfl⟩ := List.mem_map.mp (List.mem_toFinset.mp member)
        rfl
      apply consistent.ranked.union its
      intro wait member reached
      obtain ⟨holder, fresh, rfl⟩ := List.mem_map.mp (List.mem_toFinset.mp member)
      obtain ⟨named, other, _⟩ := mem_newHolders.mp fresh
      rcases Relation.reflTransGen_iff_eq_or_transGen.mp reached with same | path
      · exact other same
      · exact noCircle ⟨holder, named, other, path⟩
    have acyclic := (consistent.tallies_linked waiter page holders).isAcyclic_iff.mpr ranked
    simp only [WaitGraph.addWaits] at refused
    split at refused
    · cases refused
    · split at refused
      · cases refused
      · rename_i cyclic
        exact cyclic acyclic
  · rintro ⟨holder, member, other, path⟩
    cases outcome : graph.addWaits waiter page holders with
    | mk next answer =>
        cases answer with
        | false => rfl
        | true =>
            exfalso
            obtain ⟨nextConsistent, mem_iff⟩ := consistent.addWaits_true outcome
            have grown : graph.waitSet ⊆ next.waitSet := by
              intro wait present
              exact mem_waitSet.mpr ((mem_iff wait).mpr (Or.inl (mem_waitSet.mp present)))
            have closing : Behind next.waitSet holder waiter :=
              ⟨page, mem_waitSet.mpr ((mem_iff _).mpr (Or.inr ⟨rfl, rfl, member, other⟩))⟩
            have further := Relation.TransGen.mono (behind_mono grown) _ _ path
            exact nextConsistent.ranked.no_cycle waiter (further.tail closing)

end RowStore.WaitGraph
