import RowStore.Fault

/-!
Settings of a database: the page size of its tables and the number of pages kept in memory.
-/

set_option autoImplicit false

namespace RowStore

structure Settings where
  pageSize : Nat
  poolPages : Nat
  deriving DecidableEq, Repr

namespace Settings

def standard : Settings :=
  { pageSize := 4096
    poolPages := 50 }

/-- Refuses settings that no table could work with, an empty pool before a small page. Whether a
page has room for a row is checked with each table. -/
def validate (settings : Settings) : Except Fault Unit :=
  if settings.poolPages = 0 then .error (.config .emptyPool)
  else if settings.pageSize < 2 then .error (.config (.pageTooSmall settings.pageSize))
  else .ok ()

end Settings

end RowStore
