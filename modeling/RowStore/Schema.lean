/-!
Row schemas: the ordered columns of a table. Every column type has a fixed stored width, so every
row of one schema has the same stored width.
-/

set_option autoImplicit false

namespace RowStore

/-! ### Column types -/

inductive FieldType where
  | int
  | string
  deriving DecidableEq, Repr

namespace FieldType

def contentRoom : Nat := 128

def width : FieldType → Nat
  | .int => 4
  | .string => 4 + contentRoom

def render : FieldType → String
  | .int => "Int"
  | .string => "String"

end FieldType

/-! ### Schemas -/

structure Column where
  type : FieldType
  name : Option String
  deriving DecidableEq, Repr

structure Schema where
  columns : List Column
  deriving DecidableEq, Repr

namespace Schema

/-- Names are given to the columns in order. Columns beyond the names have none, and names beyond
the columns are dropped. -/
def named : List FieldType → List String → Schema
  | types, names =>
      ⟨types.zipIdx.map (fun (type, index) => ⟨type, names[index]?⟩)⟩

def unnamed (types : List FieldType) : Schema :=
  named types []

def arity (schema : Schema) : Nat :=
  schema.columns.length

def type? (schema : Schema) (index : Nat) : Option FieldType :=
  schema.columns[index]?.map Column.type

def name? (schema : Schema) (index : Nat) : Option String :=
  schema.columns[index]?.bind Column.name

def indexOf? (schema : Schema) (name : String) : Option Nat :=
  schema.columns.findIdx? (fun column => column.name == some name)

def width (schema : Schema) : Nat :=
  schema.columns.foldr (fun column total => column.type.width + total) 0

end Schema

end RowStore
