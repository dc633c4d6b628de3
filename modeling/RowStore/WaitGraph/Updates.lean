import RowStore.WaitGraph.Peeling

/-!
Updates of a wait graph: new waits, which are taken only while the graph stays without a cycle, and
the waits that end when a holder lets go of a page, when a waiter stops waiting for one, and when a
transaction is over.
-/

set_option autoImplicit false

namespace RowStore.WaitGraph

/-! ### New waits -/

/-- The holders behind which the waiter does not wait on the page yet, each once. -/
def newHolders (graph : WaitGraph) (waiter : TransactionId) (page : PageId)
    (holders : List TransactionId) : List TransactionId :=
  (holders.filter (fun holder =>
    holder != waiter && !graph.waits.contains ⟨holder, page, waiter⟩)).eraseDups

/-- The graph with an edge from each of the holders, and with everyone known, but without the waits
that the edges stand for. -/
def linked (graph : WaitGraph) (waiter : TransactionId) (holders : List TransactionId) :
    WaitGraph :=
  holders.foldl (fun current holder => current.link ⟨holder, waiter⟩) graph

def unlinked (graph : WaitGraph) (waiter : TransactionId) (holders : List TransactionId) :
    WaitGraph :=
  holders.foldl (fun current holder => current.unlink ⟨holder, waiter⟩) graph

/-- Lets the waiter wait on the page behind the holders. If that would close a cycle, the answer is
`false` and the edges are taken back; everyone named becomes known all the same. -/
def addWaits (graph : WaitGraph) (waiter : TransactionId) (page : PageId)
    (holders : List TransactionId) : WaitGraph × Bool :=
  let fresh := graph.newHolders waiter page holders
  let known := fresh.foldl meet (graph.meet waiter)
  let extended := known.linked waiter fresh
  if fresh.isEmpty then (known, true)
  else if extended.isAcyclic then
    let waits := fresh.map (fun holder => Wait.mk holder page waiter)
    ({ extended with waits := extended.waits.insertMany waits }, true)
  else (extended.unlinked waiter fresh, false)

/-! ### Waits that end -/

def endWaits (graph : WaitGraph) (picked : Wait → Bool) : WaitGraph :=
  let ended := graph.waits.toList.filter picked
  let cleared := ended.foldl (fun current wait => current.unlink wait.edge) graph
  { cleared with waits := graph.waits.filter (fun wait => !picked wait) }

def release (graph : WaitGraph) (holder : TransactionId) (page : PageId) : WaitGraph :=
  graph.endWaits (fun wait => wait.holder == holder && wait.page == page)

def resolve (graph : WaitGraph) (waiter : TransactionId) (page : PageId) : WaitGraph :=
  graph.endWaits (fun wait => wait.waiter == waiter && wait.page == page)

def remove (graph : WaitGraph) (transaction : TransactionId) : WaitGraph :=
  let lightened := (graph.waitersOf transaction).foldl
    (fun degrees entry => degrees.modify entry.1 (· - entry.2)) graph.degrees
  { edges := graph.edges.filter (fun edge _ => !edge.touches transaction)
    degrees := lightened.erase transaction
    waits := graph.waits.filter (fun wait => !wait.touches transaction) }

end RowStore.WaitGraph
