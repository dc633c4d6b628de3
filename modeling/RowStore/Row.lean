import RowStore.Field

/-!
Rows: typed fields under a schema, possibly with the record they are stored as. A row that was built
from fields, and changed only by `replace`, has the field types of its schema.
-/

set_option autoImplicit false

namespace RowStore

structure Row where
  schema : Schema
  fields : List Field
  /-- Where the row is stored; a row that never was has none. -/
  record : Option RecordId
  deriving DecidableEq, Repr

namespace Row

/-! ### Building -/

/-- The first field, with its index, whose type is not the one that its column declares. -/
def misfit? : List Column → List Field → Nat → Option SchemaCause
  | column :: columns, field :: fields, index =>
      if field.type = column.type then misfit? columns fields (index + 1)
      else some (.fieldType index field.type column.type)
  | _, _, _ => none

/-- A row that is not stored anywhere yet. The number of fields is checked before their types. -/
def ofFields (schema : Schema) (fields : List Field) : Except Fault Row :=
  if fields.length = schema.arity then
    match misfit? schema.columns fields 0 with
    | some cause => .error (.schema cause)
    | none => .ok ⟨schema, fields, none⟩
  else .error (.schema (.arity schema.arity fields.length))

def replace (row : Row) (index : Nat) (field : Field) : Except Fault Row :=
  if row.schema.type? index = some field.type then
    .ok { row with fields := row.fields.set index field }
  else .error (.schema (.cannotStore field.type index))

def storedAt (row : Row) (record : RecordId) : Row :=
  { row with record := some record }

/-- Rows are the same when their fields are, wherever they are stored. -/
def sameFields (left right : Row) : Bool :=
  left.fields == right.fields

def render (row : Row) : String :=
  "\t".intercalate (row.fields.map Field.render)

/-! ### Stored form -/

def encode (row : Row) : List UInt8 :=
  row.fields.flatMap Field.encode

def decodeFields : List Column → List UInt8 → Except Fault (List Field)
  | [], _ => .ok []
  | column :: columns, bytes =>
      if bytes.length < column.type.width then .error (.corrupt .truncatedRow)
      else do
        let field ← column.type.decode bytes
        let fields ← decodeFields columns (bytes.drop column.type.width)
        return field :: fields

def decode (schema : Schema) (bytes : List UInt8) : Except Fault Row := do
  let fields ← decodeFields schema.columns bytes
  return ⟨schema, fields, none⟩

end Row

end RowStore
