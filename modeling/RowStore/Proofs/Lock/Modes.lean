import Mathlib.Tactic.ByContra
import RowStore.Lock.Holders

/-!
Modes: who stands in the way of whom on one page. A page is exclusive when whoever has it to itself
is its only holder; granting a request that nobody opposes keeps it so and takes nothing from
anybody.
-/

set_option autoImplicit false

namespace RowStore

def LockMode.Covers (mode weaker : LockMode) : Prop :=
  weaker = .exclusive → mode = .exclusive

theorem LockMode.Covers.refl (mode : LockMode) : mode.Covers mode :=
  fun exclusive => exclusive

theorem LockMode.Covers.conflicts {mode weaker asked : LockMode} (covers : mode.Covers weaker)
    (conflict : asked.compatible weaker = false) : asked.compatible mode = false := by
  cases weaker with
  | exclusive =>
      rw [covers rfl]
      exact conflict
  | shared =>
      cases asked with
      | shared => cases conflict
      | exclusive => rfl

namespace Holders

def IsExclusive (holders : Holders) : Prop :=
  holders.exclusive = none ∨ ∃ holder, holders.exclusive = some holder ∧ holders.shared = ∅

theorem modeOf?_eq_some_exclusive {holders : Holders} {transaction : TransactionId} :
    holders.modeOf? transaction = some .exclusive ↔ holders.exclusive = some transaction := by
  unfold modeOf?
  by_cases alone : holders.exclusive = some transaction
  · simp [alone]
  · simp only [alone, if_false, iff_false]
    split <;> simp

theorem modeOf?_eq_some_shared {holders : Holders} {transaction : TransactionId} :
    holders.modeOf? transaction = some .shared ↔
      holders.exclusive ≠ some transaction ∧ transaction ∈ holders.shared := by
  unfold modeOf?
  by_cases alone : holders.exclusive = some transaction
  · simp [alone]
  · simp only [ne_eq, alone, not_false_eq_true, true_and, if_false,
      Std.ExtTreeSet.mem_iff_contains]
    split <;> simp_all

theorem modeOf?_eq_none {holders : Holders} {transaction : TransactionId} :
    holders.modeOf? transaction = none ↔
      holders.exclusive ≠ some transaction ∧ transaction ∉ holders.shared := by
  unfold modeOf?
  by_cases alone : holders.exclusive = some transaction
  · simp [alone]
  · simp only [ne_eq, alone, not_false_eq_true, true_and, if_false,
      Std.ExtTreeSet.mem_iff_contains]
    split <;> simp_all

@[simp] theorem modeOf?_nobody (transaction : TransactionId) :
    nobody.modeOf? transaction = none := by
  simp [modeOf?_eq_none, nobody]

theorem eq_nobody_of_isFree {holders : Holders} (free : holders.isFree = true) :
    holders = nobody := by
  obtain ⟨shared, exclusive⟩ := holders
  simp only [isFree, Bool.and_eq_true, Option.isNone_iff_eq_none,
    Std.ExtTreeSet.isEmpty_iff] at free
  rw [free.1, free.2]
  rfl

/-! ### Opposition -/

/-- Those in the way of a request are the others who hold the page in an incompatible mode. -/
theorem mem_opposing {holders : Holders} {transaction holder : TransactionId} {mode : LockMode} :
    holder ∈ holders.opposing transaction mode ↔
      holder ≠ transaction ∧
        ∃ held, holders.modeOf? holder = some held ∧ mode.compatible held = false := by
  have listed : holder ∈ holders.opposing transaction mode ↔ holder ≠ transaction ∧
      ((holder ∈ holders.shared ∧ mode.compatible .shared = false) ∨
        (holders.exclusive = some holder ∧ mode.compatible .exclusive = false)) := by
    simp only [opposing, entries, List.mem_map, List.mem_filter, List.mem_append, Bool.and_eq_true,
      bne_iff_ne, ne_eq, Bool.not_eq_true', Std.ExtTreeSet.mem_toList, Option.mem_toList]
    constructor
    · rintro ⟨entry, ⟨⟨other, member, rfl⟩ | ⟨other, alone, rfl⟩, different, conflict⟩, rfl⟩
      · exact ⟨different, Or.inl ⟨member, conflict⟩⟩
      · exact ⟨different, Or.inr ⟨alone, conflict⟩⟩
    · rintro ⟨different, ⟨member, conflict⟩ | ⟨alone, conflict⟩⟩
      · exact ⟨(holder, .shared), ⟨Or.inl ⟨holder, member, rfl⟩, different, conflict⟩, rfl⟩
      · exact ⟨(holder, .exclusive), ⟨Or.inr ⟨holder, alone, rfl⟩, different, conflict⟩, rfl⟩
  rw [listed]
  apply and_congr_right
  intro _
  constructor
  · rintro (⟨member, conflict⟩ | ⟨alone, conflict⟩)
    · by_cases alone : holders.exclusive = some holder
      · refine ⟨.exclusive, modeOf?_eq_some_exclusive.mpr alone, ?_⟩
        cases mode <;> rfl
      · exact ⟨.shared, modeOf?_eq_some_shared.mpr ⟨alone, member⟩, conflict⟩
    · exact ⟨.exclusive, modeOf?_eq_some_exclusive.mpr alone, conflict⟩
  · rintro ⟨held, holds, conflict⟩
    cases held with
    | shared => exact Or.inl ⟨(modeOf?_eq_some_shared.mp holds).2, conflict⟩
    | exclusive => exact Or.inr ⟨modeOf?_eq_some_exclusive.mp holds, conflict⟩

theorem opposing_eq_nil {holders : Holders} {transaction : TransactionId} {mode : LockMode} :
    holders.opposing transaction mode = [] ↔
      ∀ holder held, holder ≠ transaction → holders.modeOf? holder = some held →
        mode.compatible held = true := by
  rw [List.eq_nil_iff_forall_not_mem]
  constructor
  · intro none holder held different holds
    by_contra conflict
    have disagree : mode.compatible held = false := by simpa using conflict
    exact none holder (mem_opposing.mpr ⟨different, held, holds, disagree⟩)
  · intro agree holder member
    obtain ⟨different, held, holds, conflict⟩ := mem_opposing.mp member
    rw [agree holder held different holds] at conflict
    cases conflict

theorem eq_of_exclusive_unopposed {holders : Holders} {transaction holder : TransactionId}
    (unopposed : holders.opposing transaction .exclusive = []) {held : LockMode}
    (holds : holders.modeOf? holder = some held) : holder = transaction := by
  by_contra different
  have agree := opposing_eq_nil.mp unopposed holder held different holds
  cases agree

theorem IsExclusive.eq_of_modeOf? {holders : Holders} (exclusive : holders.IsExclusive)
    {owner holder : TransactionId} (owns : holders.modeOf? owner = some .exclusive)
    {held : LockMode} (holds : holders.modeOf? holder = some held) : holder = owner := by
  have alone := modeOf?_eq_some_exclusive.mp owns
  cases held with
  | exclusive =>
      have also := modeOf?_eq_some_exclusive.mp holds
      rw [alone] at also
      exact (Option.some.inj also).symm
  | shared =>
      obtain ⟨_, member⟩ := modeOf?_eq_some_shared.mp holds
      rcases exclusive with free | ⟨_, _, nobodyShares⟩
      · rw [alone] at free
        cases free
      · rw [nobodyShares] at member
        exact absurd member Std.ExtTreeSet.not_mem_empty

/-! ### Granting -/

theorem IsExclusive.grant {holders : Holders} (exclusive : holders.IsExclusive)
    {transaction : TransactionId} {mode : LockMode}
    (unopposed : holders.opposing transaction mode = []) :
    (holders.grant transaction mode).IsExclusive := by
  cases mode with
  | exclusive => exact Or.inr ⟨transaction, rfl, rfl⟩
  | shared =>
      by_cases alone : holders.exclusive = some transaction
      · simp only [Holders.grant, if_pos alone]
        exact exclusive
      · left
        simp only [Holders.grant, if_neg alone]
        rcases exclusive with free | ⟨holder, byHolder, _⟩
        · exact free
        · have different : holder ≠ transaction := by
            rintro rfl
            exact alone byHolder
          have agree := opposing_eq_nil.mp unopposed holder .exclusive different
            (modeOf?_eq_some_exclusive.mpr byHolder)
          cases agree

theorem modeOf?_grant_self (holders : Holders) (transaction : TransactionId) (mode : LockMode) :
    ∃ held, (holders.grant transaction mode).modeOf? transaction = some held ∧
      held.Covers mode := by
  cases mode with
  | exclusive =>
      exact ⟨.exclusive, modeOf?_eq_some_exclusive.mpr rfl, LockMode.Covers.refl _⟩
  | shared =>
      by_cases alone : holders.exclusive = some transaction
      · refine ⟨.exclusive, ?_, fun impossible => by cases impossible⟩
        simp only [grant, if_pos alone]
        exact modeOf?_eq_some_exclusive.mpr alone
      · refine ⟨.shared, ?_, LockMode.Covers.refl _⟩
        simp only [grant, if_neg alone]
        rw [modeOf?_eq_some_shared]
        exact ⟨alone, by simp⟩

theorem modeOf?_grant_of_ne {holders : Holders} {transaction other : TransactionId}
    {mode : LockMode} (unopposed : holders.opposing transaction mode = [])
    (different : other ≠ transaction) :
    (holders.grant transaction mode).modeOf? other = holders.modeOf? other := by
  cases mode with
  | exclusive =>
      have free : holders.modeOf? other = none := by
        cases holds : holders.modeOf? other with
        | none => rfl
        | some held => exact absurd (eq_of_exclusive_unopposed unopposed holds) different
      rw [free, modeOf?_eq_none]
      simpa [grant] using different.symm
  | shared =>
      by_cases alone : holders.exclusive = some transaction
      · simp only [grant, if_pos alone]
      · simp only [grant, if_neg alone, modeOf?, Std.ExtTreeSet.contains_insert]
        have apart : (compare transaction other == .eq) = false := by
          simpa using different.symm
        rw [apart, Bool.false_or]

theorem modeOf?_grant_covers {holders : Holders} {transaction holder : TransactionId}
    {mode held : LockMode} (unopposed : holders.opposing transaction mode = [])
    (holds : holders.modeOf? holder = some held) :
    ∃ kept, (holders.grant transaction mode).modeOf? holder = some kept ∧ kept.Covers held := by
  by_cases same : holder = transaction
  · subst holder
    cases mode with
    | exclusive =>
        exact ⟨.exclusive, modeOf?_eq_some_exclusive.mpr rfl, fun _ => rfl⟩
    | shared =>
        by_cases alone : holders.exclusive = some transaction
        · simp only [grant, if_pos alone]
          exact ⟨held, holds, LockMode.Covers.refl _⟩
        · have granted := modeOf?_grant_self holders transaction .shared
          obtain ⟨kept, keeps, _⟩ := granted
          refine ⟨kept, keeps, ?_⟩
          rintro rfl
          exact absurd (modeOf?_eq_some_exclusive.mp holds) alone
  · rw [modeOf?_grant_of_ne unopposed same]
    exact ⟨held, holds, LockMode.Covers.refl _⟩

/-! ### Releasing -/

theorem IsExclusive.release {holders : Holders} (exclusive : holders.IsExclusive)
    (transaction : TransactionId) : (holders.release transaction).IsExclusive := by
  rcases exclusive with free | ⟨holder, alone, none⟩
  · left
    simp [Holders.release, free]
  · by_cases same : holder = transaction
    · left
      simp [Holders.release, alone, same]
    · right
      refine ⟨holder, ?_, ?_⟩
      · simp [Holders.release, alone, same]
      · simp [Holders.release, none]

theorem modeOf?_release (holders : Holders) (transaction other : TransactionId) :
    (holders.release transaction).modeOf? other =
      if other = transaction then none else holders.modeOf? other := by
  by_cases same : other = transaction
  · subst other
    rw [if_pos rfl, modeOf?_eq_none]
    constructor
    · simp only [release]
      split
      · simp
      · assumption
    · simp [release]
  · rw [if_neg same]
    have apart : compare transaction other ≠ .eq := by
      simpa using Ne.symm same
    simp only [modeOf?, release, Std.ExtTreeSet.contains_erase]
    by_cases mine : holders.exclusive = some transaction
    · simp [mine, Ne.symm same]
    · simp [mine, Ne.symm same]

end Holders

end RowStore
