/-!
Identifiers of tables, pages, stored rows and transactions. Each is ordered, part by part from the
most significant on, and each has the text that messages show.
-/

set_option autoImplicit false

namespace RowStore

/-! ### Tables and pages -/

structure TableId where
  number : Nat
  deriving DecidableEq, Repr

namespace TableId

instance : Ord TableId := ⟨compareOn TableId.number⟩

instance : Std.TransOrd TableId := inferInstanceAs (Std.TransCmp (compareOn TableId.number))

instance : Std.LawfulEqOrd TableId where
  eq_of_compare {left right} same := by
    have numbers : left.number = right.number := Std.LawfulEqOrd.eq_of_compare same
    cases left
    cases right
    exact congrArg TableId.mk numbers

def render (table : TableId) : String := toString table.number

end TableId

structure PageId where
  table : TableId
  number : Nat
  deriving DecidableEq, Repr

namespace PageId

instance : Ord PageId := ⟨compareLex (compareOn PageId.table) (compareOn PageId.number)⟩

instance : Std.TransOrd PageId :=
  inferInstanceAs (Std.TransCmp (compareLex (compareOn PageId.table) (compareOn PageId.number)))

instance : Std.LawfulEqOrd PageId where
  eq_of_compare {left right} same := by
    obtain ⟨tables, numbers⟩ := compareLex_eq_eq.mp same
    have sameTable : left.table = right.table := Std.LawfulEqOrd.eq_of_compare tables
    have sameNumber : left.number = right.number := Std.LawfulEqOrd.eq_of_compare numbers
    cases left
    cases right
    cases sameTable
    cases sameNumber
    rfl

def render (page : PageId) : String :=
  "page " ++ page.table.render ++ ":" ++ toString page.number

end PageId

/-! ### Stored rows -/

structure RecordId where
  page : PageId
  slot : Nat
  deriving DecidableEq, Repr

namespace RecordId

instance : Ord RecordId := ⟨compareLex (compareOn RecordId.page) (compareOn RecordId.slot)⟩

instance : Std.TransOrd RecordId :=
  inferInstanceAs (Std.TransCmp (compareLex (compareOn RecordId.page) (compareOn RecordId.slot)))

instance : Std.LawfulEqOrd RecordId where
  eq_of_compare {left right} same := by
    obtain ⟨pages, slots⟩ := compareLex_eq_eq.mp same
    have samePage : left.page = right.page := Std.LawfulEqOrd.eq_of_compare pages
    have sameSlot : left.slot = right.slot := Std.LawfulEqOrd.eq_of_compare slots
    cases left
    cases right
    cases samePage
    cases sameSlot
    rfl

def render (record : RecordId) : String :=
  record.page.render ++ " slot " ++ toString record.slot

def sorted (records : List RecordId) : List RecordId :=
  records.mergeSort (fun left right => (compare left right).isLE)

end RecordId

/-! ### Transactions -/

structure TransactionId where
  number : Nat
  deriving DecidableEq, Repr

namespace TransactionId

instance : Ord TransactionId := ⟨compareOn TransactionId.number⟩

instance : Std.TransOrd TransactionId :=
  inferInstanceAs (Std.TransCmp (compareOn TransactionId.number))

instance : Std.LawfulEqOrd TransactionId where
  eq_of_compare {left right} same := by
    have numbers : left.number = right.number := Std.LawfulEqOrd.eq_of_compare same
    cases left
    cases right
    exact congrArg TransactionId.mk numbers

def render (transaction : TransactionId) : String := "Txn" ++ toString transaction.number

end TransactionId

structure TransactionSource where
  upcoming : Nat
  deriving DecidableEq, Repr

namespace TransactionSource

def new : TransactionSource := ⟨1⟩

def next (source : TransactionSource) : TransactionId × TransactionSource :=
  (⟨source.upcoming⟩, ⟨source.upcoming + 1⟩)

def take (source : TransactionSource) : Nat → List TransactionId
  | 0 => []
  | count + 1 => source.next.1 :: source.next.2.take count

end TransactionSource

/-! ### Access -/

inductive LockMode where
  | shared
  | exclusive
  deriving DecidableEq, Repr

def LockMode.compatible : LockMode → LockMode → Bool
  | .shared, .shared => true
  | _, _ => false

inductive Access where
  | read
  | write
  deriving DecidableEq, Repr

def Access.isWrite : Access → Bool
  | .read => false
  | .write => true

def Access.mode : Access → LockMode
  | .read => .shared
  | .write => .exclusive

end RowStore
