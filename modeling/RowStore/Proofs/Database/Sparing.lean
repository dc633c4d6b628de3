import RowStore.Proofs.Database.Halts
import RowStore.Proofs.Engine.Careful

/-!
Refused operations lose no page with changes and write over no page of the disk, as those do that go
on: what they add in part comes behind every page there is.
-/

set_option autoImplicit false

namespace RowStore.Database

section

variable {database : Database} {numbering : String → TableId} {file : TableFile}

theorem spares_appendInPart (catalog : database.catalog.Sound numbering)
    (sound : database.pool.Sound) {table : TableId}
    (registered : database.catalog.file table = .ok file) (written : Nat) :
    database.Spares (database.appendInPart file written) where
  catalog := rfl
  keeps := .refl _
  retains := .refl _
  sound := sound
  unsaved := fun _ _ content found dirty => ⟨content, found, dirty⟩
  images := fun _ _ onDisk => image?_appendInPart catalog registered written onDisk

theorem Frays.spares {file? : Option TableFile} {reached : Database}
    (frays : database.Frays file? reached) (catalog : database.catalog.Sound numbering)
    (sound : database.pool.Sound)
    (registered : ∀ file, file? = some file → database.catalog.Lists file) :
    database.Spares reached := by
  cases frays with
  | none => exact .refl sound
  | part own written =>
      obtain ⟨table, registered⟩ := registered _ own
      exact spares_appendInPart catalog sound registered written

variable {reached : Database} {refusal : Refusal} {cause : DiskCause} {outcome : Outcome}

theorem spares_ofOperationRefused? (catalog : database.catalog.Sound numbering)
    (sound : database.pool.Sound) {operation : Operation}
    (registered : operation.Registered database.catalog)
    (refuses : Progress.ofOperationRefused? database refusal cause operation =
      some (reached, outcome)) : database.Spares reached := by
  obtain ⟨file?, frays, own⟩ := Progress.frays_ofOperationRefused? refuses
  refine frays.spares catalog sound ?_
  intro file same
  rcases own file same with brought | listed
  · cases operation with
    | insertInto transaction brings row =>
        cases brought
        exact ⟨file.id, registered⟩
    | _ => cases brought
  · exact listed

private theorem spares_loadRefused? {current : Database} (spares : database.Spares current)
    {task : Task} {onwards : Database → Page → Option (Database × Outcome)}
    (behind : ∀ loaded content, current.Spares loaded → onwards loaded content =
      some (reached, outcome) → loaded.Spares reached)
    (refuses : Progress.loadRefused? current refusal cause task onwards =
      some (reached, outcome)) : database.Spares reached := by
  unfold Progress.loadRefused? at refuses
  cases refusal with
  | reading =>
      dsimp only at refuses
      split at refuses
      · cases refuses
        exact spares
      · cases refuses
  | _ =>
      dsimp only at refuses
      split at refuses
      · rename_i loads
        have loading := (spares_load spares.sound loads).1
        exact (spares.trans loading).trans (behind _ _ loading refuses)
      · cases refuses

theorem spares_ofTaskRefused? (catalog : database.catalog.Sound numbering)
    (sound : database.pool.Sound) {task : Task} (registered : task.Registered database.catalog)
    (refuses : Progress.ofTaskRefused? database refusal cause task = some (reached, outcome)) :
    database.Spares reached := by
  unfold Progress.ofTaskRefused? at refuses
  cases task with
  | locking request => cases refuses
  | filling insertion table left stored last => cases refuses
  | fetching transaction page access =>
      refine spares_loadRefused? (spares_noteAccess sound transaction page access) ?_ refuses
      intro _ _ _ impossible
      cases impossible
  | deleting transaction row page handover =>
      refine spares_loadRefused? (spares_noteAccess sound transaction page .write) ?_ refuses
      intro _ _ _ impossible
      cases impossible
  | inserting insertion handover =>
      have noted := spares_noteAccess sound insertion.transaction insertion.page .write
      refine spares_loadRefused? noted ?_ refuses
      intro loaded content loading goes
      split at goes
      · obtain ⟨skipped, skips, same⟩ := Option.map_eq_some_iff.mp goes
        cases same
        have kept := loading.catalog.trans noted.catalog
        refine (Progress.frays_skipRefused? skips).spares (by rw [kept]; exact catalog)
          loading.sound ?_
        rintro file ⟨rfl⟩
        rw [kept]
        exact registered
      · cases goes
  | scanning scan left rows =>
      refine spares_loadRefused? (.refl sound) ?_ refuses
      intro loaded content loading goes
      obtain ⟨rfl, _⟩ := Progress.scanRefused?_eq_some goes
      exact .refl loading.sound

end

end RowStore.Database
