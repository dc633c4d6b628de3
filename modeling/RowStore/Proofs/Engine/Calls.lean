import RowStore.Proofs.Engine.Isolation

/-!
Calls: operations that take their turns between other actions, up to the turn that finishes them. A
scan is read to its end by calls, one after another, with anything between them.
-/

set_option autoImplicit false

namespace RowStore

namespace Engine

/-! ### Histories -/

def performEach (engine : Engine) (actions : List EngineAction) : Engine :=
  actions.foldl perform engine

theorem performEach_append (engine : Engine) (actions more : List EngineAction) :
    engine.performEach (actions ++ more) = (engine.performEach actions).performEach more :=
  List.foldl_append

def Throughout (engine : Engine) (allowed : Engine → EngineAction → Prop) :
    List EngineAction → Prop
  | [] => True
  | action :: rest => allowed engine action ∧ (engine.perform action).Throughout allowed rest

def decideThroughout (engine : Engine) (allowed : Engine → EngineAction → Prop)
    [∀ engine action, Decidable (allowed engine action)] :
    (actions : List EngineAction) → Decidable (engine.Throughout allowed actions)
  | [] => isTrue trivial
  | action :: rest =>
      have := (engine.perform action).decideThroughout allowed rest
      inferInstanceAs (Decidable (_ ∧ _))

instance (engine : Engine) (allowed : Engine → EngineAction → Prop)
    [∀ engine action, Decidable (allowed engine action)] (actions : List EngineAction) :
    Decidable (engine.Throughout allowed actions) :=
  engine.decideThroughout allowed actions

theorem throughout_append {engine : Engine} {allowed : Engine → EngineAction → Prop}
    {actions more : List EngineAction} :
    engine.Throughout allowed (actions ++ more) ↔
      engine.Throughout allowed actions ∧
        (engine.performEach actions).Throughout allowed more := by
  induction actions generalizing engine with
  | nil => exact (true_and _).symm.to_iff
  | cons action rest ih =>
      change _ ∧ (engine.perform action).Throughout allowed (rest ++ more) ↔ (_ ∧ _) ∧ _
      rw [ih, and_assoc]
      rfl

theorem Throughout.and {engine : Engine} {allowed others : Engine → EngineAction → Prop}
    {actions : List EngineAction} (left : engine.Throughout allowed actions)
    (right : engine.Throughout others actions) :
    engine.Throughout (fun engine action => allowed engine action ∧ others engine action)
      actions := by
  induction actions generalizing engine with
  | nil => trivial
  | cons action rest ih => exact ⟨⟨left.1, right.1⟩, ih left.2 right.2⟩

theorem Throughout.mono {engine : Engine} {allowed others : Engine → EngineAction → Prop}
    {actions : List EngineAction} (throughout : engine.Throughout allowed actions)
    (within : ∀ engine action, allowed engine action → others engine action) :
    engine.Throughout others actions := by
  induction actions generalizing engine with
  | nil => trivial
  | cons action rest ih => exact ⟨within engine action throughout.1, ih throughout.2⟩

theorem record_snd_append (engine : Engine) (journal : Journal) (actions more : List EngineAction) :
    (engine.record journal (actions ++ more)).2 =
      ((engine.performEach actions).record (engine.record journal actions).2 more).2 := by
  induction actions generalizing engine journal with
  | nil => rfl
  | cons action rest ih => exact ih _ _

theorem record_invariant {allowed : Engine → EngineAction → Prop} (kept : Engine → Journal → Prop)
    (step : ∀ engine journal action, kept engine journal → allowed engine action →
      kept (engine.perform action) (journal.after engine action)) {engine : Engine}
    {journal : Journal} (start : kept engine journal) {actions : List EngineAction}
    (throughout : engine.Throughout allowed actions) :
    kept (engine.performEach actions) (engine.record journal actions).2 := by
  induction actions generalizing engine journal with
  | nil => exact start
  | cons action rest ih => exact ih (step engine journal action start throughout.1) throughout.2

/-! ### Changes of a transaction -/

def changesBy (engine : Engine) (transaction : TransactionId) : EngineAction → List Change
  | .turn ticket =>
      match engine.tasks[ticket]?, (engine.turn ticket).2 with
      | some task, .finished outcome =>
          if task.transaction = transaction then (task.change? outcome).toList else []
      | _, _ => []
  | _ => []

/-- The action does not end the transaction, and changes no row of the table for it. -/
def Spares (transaction : TransactionId) (table : TableId) (engine : Engine)
    (action : EngineAction) : Prop :=
  action ≠ .commit transaction ∧ action ≠ .abort transaction ∧
    ∀ change ∈ engine.changesBy transaction action, change.record.page.table ≠ table

instance (transaction : TransactionId) (table : TableId) (engine : Engine)
    (action : EngineAction) : Decidable (Spares transaction table engine action) := by
  unfold Spares
  infer_instance

theorem pending_after (journal : Journal) (engine : Engine) {transaction : TransactionId}
    {action : EngineAction} (notCommitted : action ≠ .commit transaction)
    (notAborted : action ≠ .abort transaction) :
    (journal.after engine action).pending transaction =
      journal.pending transaction ++ engine.changesBy transaction action := by
  have kept {other : TransactionId} (different : transaction ≠ other) :
      (journal.abort other).pending transaction = journal.pending transaction ++ [] := by
    rw [List.append_nil]
    exact if_neg different
  cases action with
  | begin ticket operation => exact (List.append_nil _).symm
  | turn ticket =>
      unfold Journal.after changesBy
      dsimp only
      cases engine.tasks[ticket]? with
      | none => exact (List.append_nil _).symm
      | some task =>
          cases (engine.turn ticket).2 with
          | finished outcome =>
              dsimp only
              cases task.change? outcome with
              | none => rw [Option.toList_none, ite_self, List.append_nil]
              | some change =>
                  change (if transaction = task.transaction then _ else _) = _
                  by_cases own : task.transaction = transaction
                  · rw [if_pos own, if_pos own.symm, own]
                    rfl
                  · rw [if_neg own, if_neg (Ne.symm own), List.append_nil]
          | _ => exact (List.append_nil _).symm
  | commit other =>
      have different : transaction ≠ other := fun own => notCommitted (by rw [own])
      unfold Journal.after
      dsimp only
      split
      · exact kept different
      · exact (List.append_nil _).symm
  | abort other =>
      exact kept (fun own => notAborted (by rw [own]))

/-! ### Calls -/

inductive Finishes (ticket : Nat) (outcome : Outcome) : Engine → List EngineAction → Prop where
  | now {engine : Engine} (finishes : (engine.turn ticket).2 = .finished outcome) :
      Finishes ticket outcome engine [.turn ticket]
  | later {engine : Engine} {action : EngineAction} {rest : List EngineAction}
      (goesOn : action = .turn ticket → ∀ other, (engine.turn ticket).2 ≠ .finished other)
      (finishes : Finishes ticket outcome (engine.perform action) rest) :
      Finishes ticket outcome engine (action :: rest)

/-- The first of the actions begins the operation, and the last one finishes it. -/
inductive Calls (operation : Operation) (outcome : Outcome) (engine : Engine) :
    List EngineAction → Prop where
  | atOnce (ticket : Nat) (begins : (engine.begin ticket operation).2 = .finished outcome) :
      Calls operation outcome engine [.begin ticket operation]
  | inTurns (ticket : Nat) {actions : List EngineAction}
      (begins : (engine.begin ticket operation).2 = .underWay)
      (finishes : Finishes ticket outcome (engine.begin ticket operation).1 actions) :
      Calls operation outcome engine (.begin ticket operation :: actions)

/-- Calls take these rows from the scan, up to its end and without a fault. Anything may be done
between one call and the next. -/
inductive Reads : Engine → Scan → List EngineAction → List Row → Prop where
  | last {engine : Engine} {scan rest : Scan} {count : Nat} {actions : List EngineAction}
      {rows : List Row}
      (calls : Calls (.scan scan count) (.scanned rest rows (some .atEnd)) engine actions) :
      Reads engine scan actions rows
  | more {engine : Engine} {scan rest : Scan} {count : Nat}
      {actions between others : List EngineAction} {rows given : List Row}
      (calls : Calls (.scan scan count) (.scanned rest rows none) engine actions)
      (reads : Reads (engine.performEach (actions ++ between)) rest others given) :
      Reads engine scan (actions ++ between ++ others) (rows ++ given)

end Engine

end RowStore
