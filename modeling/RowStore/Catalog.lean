import RowStore.TableFile

/-!
Catalogs: the tables that a database knows, each under an identifier and a name.
-/

set_option autoImplicit false

namespace RowStore

structure TableEntry where
  name : String
  file : TableFile
  deriving DecidableEq, Repr

structure Catalog where
  tables : Std.ExtTreeMap TableId TableEntry
  names : Std.ExtTreeMap String TableId

namespace Catalog

def empty : Catalog :=
  { tables := ∅
    names := ∅ }

/-! ### Registering -/

/-- The catalog without the table that has this name, unless it is the one kept. The name is free
afterwards. -/
def vacateName (catalog : Catalog) (name : String) (kept : TableId) : Catalog :=
  match catalog.names[name]? with
  | none => catalog
  | some table =>
      { tables := if table = kept then catalog.tables else catalog.tables.erase table
        names := catalog.names.erase name }

/-- The catalog without the name of a table that is about to be registered under another one. -/
def vacateTable (catalog : Catalog) (table : TableId) (name : String) : Catalog :=
  match catalog.tables[table]? with
  | none => catalog
  | some entry =>
      if entry.name = name then catalog
      else { catalog with names := catalog.names.erase entry.name }

def place (catalog : Catalog) (file : TableFile) (name : String) : Catalog :=
  let vacated := (catalog.vacateName name file.id).vacateTable file.id name
  { tables := vacated.tables.insert file.id ⟨name, file⟩
    names := vacated.names.insert name file.id }

/-- Registers a table file under a name. Another table of that name is dropped, and so is another
name of that table. An identifier that belongs to a file with another path is refused. -/
def register (catalog : Catalog) (file : TableFile) (name : String) : Except Fault Catalog :=
  match catalog.tables[file.id]? with
  | none => .ok (catalog.place file name)
  | some entry =>
      if entry.file.path = file.path then .ok (catalog.place file name)
      else .error (.config (.tableIdInUse file.id entry.file.path file.path))

/-! ### Looking up -/

def entry? (catalog : Catalog) (table : TableId) : Option TableEntry :=
  catalog.tables[table]?

def file (catalog : Catalog) (table : TableId) : Except Fault TableFile :=
  match catalog.entry? table with
  | some entry => .ok entry.file
  | none => .error (.tableNotFound table)

def tableNamed (catalog : Catalog) (name : String) : Except Fault TableId :=
  match catalog.names[name]? with
  | some table => .ok table
  | none => .error (.nameNotFound name)

def nameOf (catalog : Catalog) (table : TableId) : Except Fault String :=
  match catalog.entry? table with
  | some entry => .ok entry.name
  | none => .error (.tableNotFound table)

def schemaOf (catalog : Catalog) (table : TableId) : Except Fault Schema :=
  (catalog.file table).map TableFile.schema

def tableIds (catalog : Catalog) : List TableId :=
  catalog.tables.keys

end Catalog

end RowStore
