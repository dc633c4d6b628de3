import RowStore.Catalog
import RowStore.Pool
import RowStore.Settings

/-!
Databases: a catalog and a pool over a volume. Tables are created or opened by path and registered
by name.
-/

set_option autoImplicit false

namespace RowStore

structure Database where
  settings : Settings
  /-- The identifier of the table at each path. Two paths may share one. -/
  numbering : String → TableId
  catalog : Catalog
  pool : Pool
  volume : Volume

/-! ### Faults of database calls -/

inductive DatabaseFault where
  | plain (fault : Fault)
  | creating (path : String) (fault : Fault)
  | opening (path : String) (fault : Fault)
  | noSuchFile (path : String)
  deriving DecidableEq, Repr

namespace DatabaseFault

def fault? : DatabaseFault → Option Fault
  | .plain fault => some fault
  | .creating _ fault => some fault
  | .opening _ fault => some fault
  | .noSuchFile _ => none

def message : DatabaseFault → String
  | .plain fault => fault.message
  | .creating path _ => "Failed to create table file " ++ Text.quoted path
  | .opening path _ => "Failed to open table file " ++ Text.quoted path
  | .noSuchFile path => "Table file does not exist at " ++ Text.quoted path

def causes : DatabaseFault → List String
  | .plain fault => fault.chain.tail
  | .creating _ fault => fault.chain
  | .opening _ fault => fault.chain
  | .noSuchFile _ => []

end DatabaseFault

namespace Database

def new (settings : Settings) (numbering : String → TableId) (preference : Nat → Nat)
    (volume : Volume) : Except Fault Database := do
  settings.validate
  return {
    settings := settings
    numbering := numbering
    catalog := Catalog.empty
    pool := Pool.new settings.poolPages preference
    volume := volume }

/-! ### Tables -/

/-- Opens a table file of the database's own numbering that need not be registered. -/
def openFileUnder (database : Database) (reception : Volume.Reception) (path : String)
    (opening : Volume.Opening) (schema : Schema) (pageSize : Nat) :
    Database × Except Fault TableFile :=
  let (volume, result) := TableFile.openUnder reception database.numbering database.volume path
    opening schema pageSize
  ({ database with volume := volume }, result)

def openFile (database : Database) (path : String) (opening : Volume.Opening) (schema : Schema)
    (pageSize : Nat) : Except Fault (Database × TableFile) :=
  match database.openFileUnder .taken path opening schema pageSize with
  | (opened, .ok file) => .ok (opened, file)
  | (_, .error fault) => .error fault

def register (database : Database) (file : TableFile) (name : String) :
    Except Fault Database := do
  let catalog ← database.catalog.register file name
  return { database with catalog := catalog }

/-- Registers a file that was just opened. The disk keeps what the opening did even if the catalog
refuses the file. -/
def adopt (database : Database) (file : TableFile) (name : String) :
    Database × Except DatabaseFault TableFile :=
  match database.register file name with
  | .ok registered => (registered, .ok file)
  | .error fault => (database, .error (.plain fault))

/-- Makes an empty table file at the path, whatever was there, and registers it. -/
def createTableUnder (database : Database) (reception : Volume.Reception) (path : String)
    (schema : Schema) (name : String) : Database × Except DatabaseFault TableFile :=
  match database.openFileUnder reception path .truncating schema database.settings.pageSize with
  | (opened, .ok file) => opened.adopt file name
  | (opened, .error fault) => (opened, .error (.creating path fault))

def createTable (database : Database) (path : String) (schema : Schema) (name : String) :
    Database × Except DatabaseFault TableFile :=
  database.createTableUnder .taken path schema name

def openTableUnder (database : Database) (reception : Volume.Reception) (path : String)
    (schema : Schema) (name : String) : Database × Except DatabaseFault TableFile :=
  if database.volume.contains path then
    match database.openFileUnder reception path .keeping schema database.settings.pageSize with
    | (opened, .ok file) => opened.adopt file name
    | (opened, .error fault) => (opened, .error (.opening path fault))
  else (database, .error (.noSuchFile path))

def openTable (database : Database) (path : String) (schema : Schema) (name : String) :
    Database × Except DatabaseFault TableFile :=
  database.openTableUnder .taken path schema name

def clearCatalog (database : Database) : Database :=
  { database with catalog := Catalog.empty }

def tableFile (database : Database) (name : String) : Except Fault TableFile := do
  let table ← database.catalog.tableNamed name
  database.catalog.file table

/-! ### Pages of table files -/

def appendEmptyPage (database : Database) (file : TableFile) : Database × Nat :=
  let (volume, number) := file.appendEmptyPage database.volume
  ({ database with volume := volume }, number)

def appendInPart (database : Database) (file : TableFile) (written : Nat) : Database :=
  { database with volume := file.appendInPart database.volume written }

def writePage (database : Database) (file : TableFile) (page : Page) : Except Fault Database := do
  let volume ← file.writePage database.volume page
  return { database with volume := volume }

end Database

end RowStore
