import Mathlib.Control.Monad.Basic
import RowStore.Proofs.Database.Opening
import RowStore.Proofs.Database.Samples

/-!
Refused tables: what is left of a database, its catalog, its pool and the files of its volume, when
a table cannot be created or opened. A table is refused before its file is touched, with two
exceptions: a path that cannot be resolved and an identifier that another file has are found out
when a file to be created is empty already.
-/

set_option autoImplicit false

namespace RowStore.Database

/-- Catalog and pool are the same in both databases, and every file of the first one that is not
exempt has its bytes in the second one. -/
structure UntouchedBut (before after : Database) (exempt : String → Prop) : Prop where
  catalog : after.catalog = before.catalog
  pool : after.pool = before.pool
  files : ∀ path bytes, before.volume.bytes? path = some bytes → ¬exempt path →
    after.volume.bytes? path = some bytes

theorem UntouchedBut.refl (database : Database) (exempt : String → Prop) :
    database.UntouchedBut database exempt :=
  ⟨rfl, rfl, fun _ _ found _ => found⟩

/-- The identifier of the path belongs to the file at another path, and the fault says so. -/
def Collides (database : Database) (path : String) (fault : DatabaseFault) : Prop :=
  ∃ other, database.catalog.file (database.numbering path) = .ok other ∧ other.path ≠ path ∧
    fault = .plain (.config (.tableIdInUse (database.numbering path) other.path path))

/-- Why a table to be created is refused when its file is open already. -/
inductive RefusedLate (database : Database) (reception : Volume.Reception) (path : String)
    (schema : Schema) : DatabaseFault → Prop where
  | unresolved {cause : DiskCause} {volume : Volume} (received : reception = .unresolved cause)
      (checked : TableFile.checkGeometry schema database.settings.pageSize = .ok ())
      (opens : database.volume.openFile path .truncating = .ok volume) :
      RefusedLate database reception path schema (.creating path (.disk cause))
  | collides {fault : DatabaseFault} (collides : database.Collides path fault) :
      RefusedLate database reception path schema fault

section

variable {database next : Database} {reception : Volume.Reception} {path name : String}
  {schema : Schema} {file : TableFile} {fault : DatabaseFault}

theorem adopt_refused (adopts : database.adopt file name = (next, .error fault)) :
    next = database ∧ ∃ other, database.catalog.file file.id = .ok other ∧
      other.path ≠ file.path ∧
        fault = .plain (.config (.tableIdInUse file.id other.path file.path)) := by
  unfold adopt register at adopts
  rcases database.catalog.register_cases file name with
    ⟨_, placed⟩ | ⟨entry, found, different, refused⟩
  · rw [placed] at adopts
    cases adopts
  · rw [refused] at adopts
    cases adopts
    exact ⟨rfl, entry.file, Catalog.file_eq_ok.mpr ⟨entry, found, rfl⟩, different, rfl⟩

/-- A table that cannot be created leaves the database as it was, unless it is refused late. Then
the file at its own path is empty. -/
theorem createTableUnder_refused
    (creates : database.createTableUnder reception path schema name = (next, .error fault)) :
    (¬database.RefusedLate reception path schema fault → next = database) ∧
      (database.RefusedLate reception path schema fault →
        next = { database with volume := database.volume.write path [] }) := by
  unfold createTableUnder at creates
  rcases database.openFileUnder_cases reception path .truncating schema
    database.settings.pageSize with
    ⟨refusal, fails⟩ | ⟨volume, checked, opens, ⟨_, answers⟩ | ⟨cause, received, fails⟩⟩
  · rw [fails] at creates
    cases creates
    refine ⟨fun _ => rfl, ?_⟩
    intro late
    cases late with
    | unresolved received checked opens =>
        have emptied := (Volume.admits_of_openFile opens).openFile .truncating
        rw [received] at fails
        unfold openFileUnder TableFile.openUnder at fails
        rw [checked, emptied] at fails
        exact (congrArg Prod.fst fails).symm
    | collides collides =>
        obtain ⟨_, _, _, impossible⟩ := collides
        cases impossible
  · rw [answers] at creates
    rw [(Volume.admits_of_openFile opens).openFile] at opens
    cases opens
    obtain ⟨rfl, collides⟩ := adopt_refused creates
    exact ⟨fun early => absurd (.collides collides) early, fun _ => rfl⟩
  · rw [fails] at creates
    cases creates
    have late : database.RefusedLate reception path schema (.creating path (.disk cause)) :=
      .unresolved received checked opens
    rw [(Volume.admits_of_openFile opens).openFile] at opens
    cases opens
    exact ⟨fun early => absurd late early, fun _ => rfl⟩

theorem openTableUnder_refused
    (opens : database.openTableUnder reception path schema name = (next, .error fault)) :
    next = database := by
  unfold openTableUnder at opens
  split at opens
  · rename_i there
    -- what is there is a file, which is opened with the bytes that it has
    have kept : ∀ volume, database.volume.openFile path .keeping = .ok volume →
        volume = database.volume := by
      intro volume keeps
      have admits := Volume.admits_of_openFile keeps
      have present : database.volume.files.contains path = true := by
        unfold Volume.contains at there
        rwa [admits.file, Bool.or_false] at there
      rw [admits.openFile, Volume.write_bytes_self present] at keeps
      cases keeps
      rfl
    rcases database.openFileUnder_cases reception path .keeping schema
      database.settings.pageSize with
      ⟨refusal, fails⟩ | ⟨volume, _, keeps, ⟨_, answers⟩ | ⟨cause, _, fails⟩⟩
    · rw [fails] at opens
      cases opens
      rfl
    · rw [answers] at opens
      cases kept volume keeps
      exact (adopt_refused opens).1
    · rw [fails] at opens
      cases kept volume keeps
      cases opens
      rfl
  · cases opens
    rfl

end

/-- Whatever the reason for which a table is not created or opened, catalog and pool are as before,
and so is every file that there was. Only a table to be created that is refused late, since its path
leads nowhere or its identifier belongs to a file at another path, costs the file at its own path
its bytes. -/
theorem refused_tables_spare_other_files (database : Database) (reception : Volume.Reception)
    (path : String) (schema : Schema) (name : String) :
    (∀ next fault, database.createTableUnder reception path schema name = (next, .error fault) →
      database.UntouchedBut next
          (fun file => file = path ∧ database.RefusedLate reception path schema fault) ∧
        (database.RefusedLate reception path schema fault →
          next.volume.bytes? path = some [])) ∧
      ∀ next fault, database.openTableUnder reception path schema name = (next, .error fault) →
        database.UntouchedBut next (fun _ => False) := by
  constructor
  · intro next fault creates
    obtain ⟨unchanged, emptied⟩ := createTableUnder_refused creates
    by_cases late : database.RefusedLate reception path schema fault
    · rw [emptied late]
      refine ⟨⟨rfl, rfl, ?_⟩, fun _ => Volume.bytes?_write _ _ _⟩
      intro other bytes found spared
      have different : path ≠ other := fun same => spared ⟨same.symm, late⟩
      exact (Volume.bytes?_write_of_ne different _ _).trans found
    · rw [unchanged late]
      exact ⟨.refl _ _, fun refused => absurd refused late⟩
  · intro next fault opens
    rw [openTableUnder_refused opens]
    exact .refl database _

/-- A file with a row was left by an earlier database. Its identifier belongs to another file by
now, so it is refused as a table to be created, and its row is gone. -/
theorem refused_creation_empties_file :
    let image : List UInt8 := [1, 0, 0, 0, 7, 0, 0, 0, 0, 0, 0, 0, 0, 0, 0, 0]
    let database := ((Samples.bare 2 (fun _ => ⟨8⟩) (Volume.empty.write "left" image)).createTable
      "other" Samples.numbers "other").1
    let result := database.createTable "left" Samples.numbers "left"
    database.SetUp ∧ result.2 = .error (.plain (.config (.tableIdInUse ⟨8⟩ "other" "left"))) ∧
      database.volume.bytes? "left" = some image ∧ result.1.volume.bytes? "left" = some [] := by
  intro image database result
  exact ⟨(Samples.setUp_bare (by decide) _ _).createTable _ _ _, by decide +kernel, by decide +kernel, by decide +kernel⟩

end RowStore.Database
