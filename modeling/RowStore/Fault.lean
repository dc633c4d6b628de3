import RowStore.Identity
import RowStore.Schema
import RowStore.Text.Quoted
import RowStore.Text.Utf8

/-!
Faults: every way in which an operation of the store can fail, by cause, and the message that each
cause gives.
-/

set_option autoImplicit false

namespace RowStore

/-! ### Causes -/

inductive SchemaCause where
  | arity (expected found : Nat)
  | fieldType (index : Nat) (found declared : FieldType)
  | cannotStore (found : FieldType) (index : Nat)
  /-- The schema of the row is not the one of the page. -/
  | pageSchema
  /-- The schema of the row is not the one of the table. -/
  | tableSchema (table : TableId)
  | described (text : String)
  deriving DecidableEq, Repr

inductive CorruptCause where
  | shortField (type : FieldType) (found : Nat)
  | stringLength (length : Nat)
  | invalidText (fault : Utf8.Fault)
  | truncatedRow
  | noSlots (pageSize rowWidth : Nat)
  | bufferSize (pageSize found : Nat)
  | described (text : String)
  deriving DecidableEq, Repr

inductive ConfigCause where
  | emptyPool
  | pageTooSmall (size : Nat)
  | noColumns
  | rowTooWide (pageSize rowWidth : Nat)
  | tableIdInUse (table : TableId) (registered offered : String)
  | described (text : String)
  deriving DecidableEq, Repr

inductive DiskCause where
  | missing
  | isFolder
  | beyondEnd (page : Nat)
  | described (text : String)
  deriving DecidableEq, Repr

inductive Fault where
  /-- Waiting for the page would close a cycle of waiting transactions. -/
  | deadlock (transaction : TransactionId) (page : PageId)
  | interrupted (transaction : TransactionId)
  | disk (cause : DiskCause)
  | poolExhausted (capacity : Nat)
  | foreignRow (record : RecordId) (table : TableId)
  | missingRecord
  | pageNotFound (page : PageId)
  | tableNotFound (table : TableId)
  | nameNotFound (name : String)
  | pageFull (page : PageId)
  | invalidSlot (slot slots : Nat)
  | slotEmpty (page : PageId) (slot : Nat)
  | schema (cause : SchemaCause)
  | corrupt (cause : CorruptCause)
  | config (cause : ConfigCause)
  deriving DecidableEq, Repr

/-! ### Messages -/

def SchemaCause.message : SchemaCause → String
  | .arity expected found =>
      "expected " ++ toString expected ++ " fields, got " ++ toString found
  | .fieldType index found declared =>
      "field " ++ toString index ++ " is " ++ found.render ++ ", descriptor says Some(" ++
        declared.render ++ ")"
  | .cannotStore found index =>
      "cannot store " ++ found.render ++ " in field " ++ toString index
  | .pageSchema => "tuple descriptor differs from page descriptor"
  | .tableSchema table => "tuple does not match the descriptor of table " ++ table.render
  | .described text => text

def CorruptCause.message : CorruptCause → String
  | .shortField type found =>
      type.render ++ " field needs " ++ toString type.width ++ " bytes, got " ++ toString found
  | .stringLength length =>
      "string length " ++ toString length ++ " exceeds " ++ toString FieldType.contentRoom
  | .invalidText fault => fault.message
  | .truncatedRow => "tuple truncated"
  | .noSlots pageSize rowWidth =>
      toString pageSize ++ " bytes cannot hold a " ++ toString rowWidth ++ " byte tuple"
  | .bufferSize pageSize found =>
      "buffer size must be the page size (" ++ toString pageSize ++ "), got " ++ toString found
  | .described text => text

def ConfigCause.message : ConfigCause → String
  | .emptyPool => "buffer pool needs at least one page"
  | .pageTooSmall size =>
      "page size " ++ toString size ++ " leaves no room for a header byte and a tuple"
  | .noColumns => "a table needs at least one field"
  | .rowTooWide pageSize rowWidth =>
      "page size " ++ toString pageSize ++ " cannot hold a " ++ toString rowWidth ++ " byte tuple"
  | .tableIdInUse table registered offered =>
      table.render ++ " is already used by " ++ Text.quoted registered ++ ", cannot register " ++
        Text.quoted offered
  | .described text => text

def DiskCause.message : DiskCause → String
  | .missing => "No such file or directory (os error 2)"
  | .isFolder => "Is a directory (os error 21)"
  | .beyondEnd page => "page " ++ toString page ++ " is beyond the end of the file"
  | .described text => text

namespace Fault

def message : Fault → String
  | .deadlock transaction page =>
      transaction.render ++ " aborted: granting a lock on " ++ page.render ++ " would deadlock"
  | .interrupted transaction =>
      transaction.render ++ " was interrupted while waiting for a lock"
  | .disk cause => "IO error: " ++ cause.message
  | .poolExhausted capacity =>
      "Buffer pool exhausted: no clean page to evict among " ++ toString capacity ++
        " resident pages"
  | .foreignRow record table =>
      "Tuple " ++ record.render ++ " does not belong to table " ++ table.render
  | .missingRecord => "Tuple has no record id; it was never stored"
  | .pageNotFound page => "Page not found: " ++ page.render
  | .tableNotFound table => "Table not found: " ++ table.render
  | .nameNotFound name => "Table not found: " ++ Text.quoted name
  | .pageFull page => "Page is full: " ++ page.render
  | .invalidSlot slot slots =>
      "Invalid slot: " ++ toString slot ++ " (slots per page: " ++ toString slots ++ ")"
  | .slotEmpty page slot => "Slot " ++ toString slot ++ " of " ++ page.render ++ " is empty"
  | .schema cause => "Schema mismatch: " ++ cause.message
  | .corrupt cause => "Corrupted data: " ++ cause.message
  | .config cause => "Invalid configuration: " ++ cause.message

/-- Whether the transaction that met the fault has to be rolled back. -/
def isAbort : Fault → Bool
  | .deadlock _ _ => true
  | .interrupted _ => true
  | _ => false

/-- The messages from the fault down to its deepest cause. Only a refusal of the disk is a cause of
its own. -/
def chain : Fault → List String
  | .disk cause => [message (.disk cause), cause.message]
  | fault => [fault.message]

end Fault

end RowStore
