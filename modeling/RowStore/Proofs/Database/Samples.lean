import RowStore.Proofs.Database.Setup

/-!
Small databases, on which single runs show what a property comes to: tables of numbers, on pages of
16 bytes that have room for three rows, and of texts, on pages of 140 bytes that have room for one.
-/

set_option autoImplicit false

namespace RowStore

namespace Samples

def numbers : Schema := ⟨[⟨.int, none⟩]⟩

def row (value : Int32) : Row := ⟨numbers, [.int value], none⟩

def texts : Schema := ⟨[⟨.string, none⟩]⟩

def sized (bytes kept : Nat) (numbering : String → TableId) (volume : Volume) : Database :=
  ⟨⟨bytes, kept⟩, numbering, Catalog.empty, Pool.new kept (fun _ => 0), volume⟩

def bare (kept : Nat) (numbering : String → TableId) (volume : Volume) : Database :=
  sized 16 kept numbering volume

def stored (kept : Nat) (bytes : List UInt8) : Database :=
  ((bare kept (fun _ => ⟨0⟩) (Volume.empty.write "rows" bytes)).openTable "rows" numbers "rows").1

def table (kept pages : Nat) : Database :=
  ((bare kept (fun _ => ⟨0⟩)
    (Volume.empty.write "rows" (Page.emptyImage (16 * pages)))).openTable "rows" numbers "rows").1

def created (kept : Nat) : Database :=
  ((bare kept (fun _ => ⟨0⟩) Volume.empty).createTable "rows" numbers "rows").1

def fullPage : List UInt8 := 7 :: List.replicate 15 0

def rows : TableFile := ⟨⟨0⟩, "rows", numbers, 16⟩

def tables (kept leftPages rightPages : Nat) : Database :=
  (((bare kept (fun path => if path = "left" then ⟨0⟩ else ⟨1⟩)
    ((Volume.empty.write "left" (Page.emptyImage (16 * leftPages))).write "right"
      (Page.emptyImage (16 * rightPages)))).openTable "left" numbers "left").1.openTable "right"
        numbers "right").1

def left : TableFile := ⟨⟨0⟩, "left", numbers, 16⟩

def right : TableFile := ⟨⟨1⟩, "right", numbers, 16⟩

def notes (kept : Nat) : Database :=
  ((sized 140 kept (fun _ => ⟨0⟩) Volume.empty).createTable "notes" texts "notes").1

theorem setUp_sized {bytes kept : Nat} (room : 2 ≤ bytes) (positive : 0 < kept)
    (numbering : String → TableId) (volume : Volume) :
    (sized bytes kept numbering volume).SetUp := by
  have made : Database.new ⟨bytes, kept⟩ numbering (fun _ => 0) volume =
      .ok (sized bytes kept numbering volume) := by
    unfold Database.new Settings.validate
    dsimp only
    rw [if_neg (Nat.ne_of_gt positive), if_neg (Nat.not_lt.mpr room)]
    rfl
  exact .new made

theorem setUp_bare {kept : Nat} (positive : 0 < kept) (numbering : String → TableId)
    (volume : Volume) : (bare kept numbering volume).SetUp :=
  setUp_sized (by decide) positive numbering volume

theorem setUp_stored {kept : Nat} (positive : 0 < kept) (bytes : List UInt8) :
    (stored kept bytes).SetUp :=
  (setUp_bare positive _ _).openTable _ _ _

theorem setUp_table {kept : Nat} (positive : 0 < kept) (pages : Nat) : (table kept pages).SetUp :=
  (setUp_bare positive _ _).openTable _ _ _

theorem setUp_created {kept : Nat} (positive : 0 < kept) : (created kept).SetUp :=
  (setUp_bare positive _ _).createTable _ _ _

theorem setUp_tables {kept : Nat} (positive : 0 < kept) (leftPages rightPages : Nat) :
    (tables kept leftPages rightPages).SetUp :=
  ((setUp_bare positive _ _).openTable _ _ _).openTable _ _ _

end Samples

end RowStore
