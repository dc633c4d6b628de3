import RowStore.Identity
import Std.Data.ExtTreeMap
import Std.Data.ExtTreeSet

/-!
Wait graphs: which transactions wait behind which. A wait says that one transaction waits on a page
behind a holder of it. Waits of the same two transactions share one counted edge, and every
transaction that the graph has met has a degree, the number of waits it is in.
-/

set_option autoImplicit false

namespace RowStore

/-! ### Waits and edges -/

/-- The waiter waits on the page behind the holder. -/
structure Wait where
  holder : TransactionId
  page : PageId
  waiter : TransactionId
  deriving DecidableEq, Repr

namespace Wait

instance : Ord Wait :=
  ⟨compareLex (compareLex (compareOn Wait.holder) (compareOn Wait.page)) (compareOn Wait.waiter)⟩

instance : Std.TransOrd Wait :=
  inferInstanceAs (Std.TransCmp
    (compareLex (compareLex (compareOn Wait.holder) (compareOn Wait.page)) (compareOn Wait.waiter)))

instance : Std.LawfulEqOrd Wait where
  eq_of_compare {left right} same := by
    obtain ⟨firstTwo, waiters⟩ := compareLex_eq_eq.mp same
    obtain ⟨holders, pages⟩ := compareLex_eq_eq.mp firstTwo
    have sameHolder : left.holder = right.holder := Std.LawfulEqOrd.eq_of_compare holders
    have samePage : left.page = right.page := Std.LawfulEqOrd.eq_of_compare pages
    have sameWaiter : left.waiter = right.waiter := Std.LawfulEqOrd.eq_of_compare waiters
    cases left
    cases right
    cases sameHolder
    cases samePage
    cases sameWaiter
    rfl

end Wait

/-- The waiter waits behind the holder, on whatever page. -/
structure WaitEdge where
  holder : TransactionId
  waiter : TransactionId
  deriving DecidableEq, Repr

namespace WaitEdge

instance : Ord WaitEdge :=
  ⟨compareLex (compareOn WaitEdge.holder) (compareOn WaitEdge.waiter)⟩

instance : Std.TransOrd WaitEdge :=
  inferInstanceAs (Std.TransCmp
    (compareLex (compareOn WaitEdge.holder) (compareOn WaitEdge.waiter)))

instance : Std.LawfulEqOrd WaitEdge where
  eq_of_compare {left right} same := by
    obtain ⟨holders, waiters⟩ := compareLex_eq_eq.mp same
    have sameHolder : left.holder = right.holder := Std.LawfulEqOrd.eq_of_compare holders
    have sameWaiter : left.waiter = right.waiter := Std.LawfulEqOrd.eq_of_compare waiters
    cases left
    cases right
    cases sameHolder
    cases sameWaiter
    rfl

def touches (edge : WaitEdge) (transaction : TransactionId) : Bool :=
  edge.holder == transaction || edge.waiter == transaction

end WaitEdge

def Wait.edge (wait : Wait) : WaitEdge :=
  ⟨wait.holder, wait.waiter⟩

def Wait.touches (wait : Wait) (transaction : TransactionId) : Bool :=
  wait.edge.touches transaction

/-! ### Graphs -/

structure WaitGraph where
  /-- The number of waits behind each edge that has any. -/
  edges : Std.ExtTreeMap WaitEdge Nat
  /-- For each transaction met, the number of waits it is in. -/
  degrees : Std.ExtTreeMap TransactionId Nat
  /-- The waits that the edges stand for. -/
  waits : Std.ExtTreeSet Wait

namespace WaitGraph

def empty : WaitGraph :=
  { edges := ∅
    degrees := ∅
    waits := ∅ }

def contains (graph : WaitGraph) (transaction : TransactionId) : Bool :=
  graph.degrees.contains transaction

def degree? (graph : WaitGraph) (transaction : TransactionId) : Option Nat :=
  graph.degrees[transaction]?

def hasEdge (graph : WaitGraph) (holder waiter : TransactionId) : Bool :=
  graph.edges.contains ⟨holder, waiter⟩

def edgeCount (graph : WaitGraph) : Nat :=
  graph.edges.toList.foldl (fun total entry => total + entry.2) 0

def waitersOf (graph : WaitGraph) (holder : TransactionId) : List (TransactionId × Nat) :=
  (graph.edges.toList.filter (fun entry => entry.1.holder == holder)).map
    (fun entry => (entry.1.waiter, entry.2))

/-! ### Single edges -/

def meet (graph : WaitGraph) (transaction : TransactionId) : WaitGraph :=
  { graph with degrees := graph.degrees.insertIfNew transaction 0 }

def link (graph : WaitGraph) (edge : WaitEdge) : WaitGraph :=
  { graph with
    edges := graph.edges.insert edge (graph.edges.getD edge 0 + 1)
    degrees := graph.degrees.insert edge.waiter (graph.degrees.getD edge.waiter 0 + 1) }

def unlink (graph : WaitGraph) (edge : WaitEdge) : WaitGraph :=
  match graph.edges[edge]? with
  | none => graph
  | some count =>
      { graph with
        edges :=
          if count ≤ 1 then graph.edges.erase edge else graph.edges.insert edge (count - 1)
        degrees := graph.degrees.modify edge.waiter (· - 1) }

end WaitGraph

end RowStore
