import RowStore.WaitGraph.Basic

/-!
Peeling: taking transactions off a wait graph one after another, each when it waits behind no
transaction that is left. A graph has no cycle when all its transactions come off.
-/

set_option autoImplicit false

namespace RowStore.WaitGraph

/-- Takes the edges of a transaction that came off from the degrees of its waiters. The answer has
the waiters that are free now; there is none if a degree is smaller than the count taken from it. -/
def deduct (degrees : Std.ExtTreeMap TransactionId Nat) :
    List (TransactionId × Nat) → Option (Std.ExtTreeMap TransactionId Nat × List TransactionId)
  | [] => some (degrees, [])
  | (waiter, count) :: rest =>
      match degrees[waiter]? with
      | none => deduct degrees rest
      | some degree =>
          if degree < count then none
          else do
            let (remaining, freed) ← deduct (degrees.insert waiter (degree - count)) rest
            return (remaining, if degree = count then waiter :: freed else freed)

/-- The transactions in the order in which they come off, when those in `ready` can and the waiters
of each are as `waitersOf` says. There is no answer after more than `bound` transactions. -/
def peel (waitersOf : TransactionId → List (TransactionId × Nat)) :
    Nat → Std.ExtTreeMap TransactionId Nat → List TransactionId → Option (List TransactionId)
  | _, _, [] => some []
  | 0, _, _ :: _ => none
  | bound + 1, degrees, transaction :: ready => do
      let (remaining, freed) ← deduct degrees (waitersOf transaction)
      let later ← peel waitersOf bound remaining (ready ++ freed)
      return transaction :: later

def unblocked (graph : WaitGraph) : List TransactionId :=
  (graph.degrees.toList.filter (fun entry => entry.2 == 0)).map (fun entry => entry.1)

def isAcyclic (graph : WaitGraph) : Bool :=
  match peel graph.waitersOf graph.degrees.size graph.degrees graph.unblocked with
  | some order => order.length == graph.degrees.size
  | none => false

end RowStore.WaitGraph
