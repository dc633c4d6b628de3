import RowStore.Proofs.Database.Isolation
import RowStore.Proofs.Database.Listing

/-!
Additions: changes that store rows of one table, each under a record of its own that had none. What
the table lists afterwards is what it listed before, with each of these rows once.
-/

set_option autoImplicit false

namespace RowStore

structure Change.AddsTo (change : Change) (table : TableId)
    (contents : RecordId → Option (List Field)) : Prop where
  inTable : change.record.page.table = table
  stores : change.fields.isSome = true
  vacant : contents change.record = none

def Change.row? (schema : Schema) (change : Change) : Option Row :=
  change.fields.map (fun fields => ⟨schema, fields.map Field.stored, some change.record⟩)

/-- The changes store rows of the table, no two of them under one record. -/
structure Adds (table : TableId) (contents : RecordId → Option (List Field))
    (changes : List Change) : Prop where
  distinct : (changes.map Change.record).Nodup
  each : ∀ change ∈ changes, change.AddsTo table contents

section

variable {table : TableId} {contents : RecordId → Option (List Field)}
  {changes more : List Change} {change : Change}

theorem Adds.tail (adds : Adds table contents (change :: changes)) :
    Adds table (change.apply contents) changes := by
  obtain ⟨fresh, distinct⟩ := List.nodup_cons.mp adds.distinct
  refine ⟨distinct, ?_⟩
  intro later member
  obtain ⟨inTable, stores, vacant⟩ := adds.each later (List.mem_cons_of_mem _ member)
  refine ⟨inTable, stores, ?_⟩
  unfold Change.apply
  rw [if_neg]
  · exact vacant
  · intro same
    rw [← same] at fresh
    exact fresh (List.mem_map_of_mem member)

theorem Adds.replay_eq_some (adds : Adds table contents changes) {record : RecordId}
    {fields : List Field} : replay contents changes record = some fields ↔
      contents record = some fields ∨ ⟨record, some fields⟩ ∈ changes := by
  induction changes generalizing contents with
  | nil => exact (or_iff_left List.not_mem_nil).symm
  | cons change rest ih =>
      change replay (change.apply contents) rest record = some fields ↔ _
      rw [ih adds.tail, List.mem_cons]
      unfold Change.apply
      by_cases same : record = change.record
      · subst same
        rw [if_pos rfl, (adds.each change List.mem_cons_self).vacant]
        constructor
        · rintro (own | later)
          · rw [← own]
            exact Or.inr (Or.inl rfl)
          · exact Or.inr (Or.inr later)
        · rintro (impossible | own | later)
          · cases impossible
          · rw [← own]
            exact Or.inl rfl
          · exact Or.inr later
      · rw [if_neg same]
        have apart : (⟨record, some fields⟩ : Change) ≠ change :=
          fun own => same (congrArg Change.record own)
        simp only [apart, false_or]

theorem Adds.left (adds : Adds table contents (changes ++ more)) :
    Adds table contents changes := by
  have distinct := adds.distinct
  rw [List.map_append] at distinct
  exact ⟨(List.nodup_append.mp distinct).1,
    fun change member => adds.each change (List.mem_append_left _ member)⟩

theorem Adds.concat (adds : Adds table contents changes)
    (addsTo : change.AddsTo table (replay contents changes)) :
    Adds table contents (changes ++ [change]) := by
  obtain ⟨inTable, stores, vacant⟩ := addsTo
  constructor
  · rw [List.map_append, List.nodup_append]
    refine ⟨adds.distinct, List.nodup_singleton _, ?_⟩
    intro record member own present
    obtain ⟨earlier, inside, rfl⟩ := List.mem_map.mp member
    rw [List.map_singleton, List.mem_singleton] at present
    subst present
    intro same
    obtain ⟨fields, stored⟩ := Option.isSome_iff_exists.mp (adds.each earlier inside).stores
    have whole : replay contents changes earlier.record = some fields := by
      apply adds.replay_eq_some.mpr
      rw [← stored]
      exact Or.inr inside
    rw [same, vacant] at whole
    cases whole
  · intro other member
    rcases List.mem_append.mp member with earlier | new
    · exact adds.each other earlier
    · rw [List.mem_singleton.mp new]
      refine ⟨inTable, stores, ?_⟩
      cases before : contents change.record with
      | none => rfl
      | some fields =>
          rw [adds.replay_eq_some.mpr (Or.inl before)] at vacant
          cases vacant

theorem Adds.cut_right (adds : Adds table contents (changes ++ more)) :
    Adds table contents (changes ++ more.map Change.cut) := by
  constructor
  · have distinct := adds.distinct
    rw [List.map_append] at distinct ⊢
    rw [List.map_map]
    exact distinct
  · intro change member
    rcases List.mem_append.mp member with left | right
    · exact adds.each change (List.mem_append_left _ left)
    · obtain ⟨whole, inside, rfl⟩ := List.mem_map.mp right
      obtain ⟨inTable, stores, vacant⟩ := adds.each whole (List.mem_append_right _ inside)
      exact ⟨inTable, (Option.isSome_map ..).trans stores, vacant⟩

end

/-! ### In journals -/

namespace Journal

/-- Whatever was committed, and whatever each transaction has changed since, adds rows to the
table. -/
def Gathers (journal : Journal) (table : TableId) (initial : RecordId → Option (List Field)) :
    Prop :=
  ∀ transaction,
    Adds table initial (journal.committed.map Change.cut ++ journal.pending transaction)

section

variable {journal : Journal} {table : TableId} {initial : RecordId → Option (List Field)}
  {transaction : TransactionId}

theorem Gathers.note (gathers : journal.Gathers table initial) {change : Change}
    (addsTo : change.AddsTo table (journal.view initial transaction)) :
    (journal.note transaction change).Gathers table initial := by
  intro other
  unfold Journal.view Journal.onDisk at addsTo
  rw [← replay_append] at addsTo
  simp only [Journal.note]
  split
  · rw [← List.append_assoc]
    exact (gathers transaction).concat addsTo
  · exact gathers other

theorem Gathers.abort (gathers : journal.Gathers table initial) (transaction : TransactionId) :
    (journal.abort transaction).Gathers table initial := by
  intro other
  simp only [Journal.abort]
  split
  · rw [List.append_nil]
    exact (gathers other).left
  · exact gathers other

theorem Gathers.commit (gathers : journal.Gathers table initial)
    (alone : journal.pending transaction ≠ [] → ∀ other, other ≠ transaction →
      journal.pending other = []) : (journal.commit transaction).Gathers table initial := by
  intro other
  have committed := (gathers transaction).cut_right
  simp only [Journal.commit, Journal.abort, List.map_append]
  split
  · rw [List.append_nil]
    exact committed
  · rename_i different
    by_cases none : journal.pending transaction = []
    · rw [none, List.map_nil, List.append_nil]
      exact gathers other
    · rw [alone none other different, List.append_nil]
      exact committed

end

end Journal

/-! ### Listed rows -/

namespace Database

end Database

end RowStore
