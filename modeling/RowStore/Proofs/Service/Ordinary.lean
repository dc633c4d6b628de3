import RowStore.Proofs.Database.Fidelity
import RowStore.Proofs.Service.Saving

/-!
Ordinary histories: operations on rows and pages of registered files, endings, pages that are
written back and locks that are given back early, with the steps of chores between. The disk refuses
nothing, nobody empties the pool, and while a transaction is ending nothing else is done for it.
-/

set_option autoImplicit false

namespace RowStore

namespace Service

/-- Operations begin under unused tickets, rows to be stored have the field types of their schema,
and files that are brought along are registered. Pages are written back, and transactions end, by
chores. -/
def Usual (service : Service) : ServiceAction → Prop
  | .serve (.perform (.begin ticket operation)) =>
      service.engine.tasks[ticket]? = none ∧ operation.Plain ∧
        ∀ file ∈ operation.file?, service.database.catalog.file file.id = .ok file
  | .serve (.perform (.turn _)) => True
  | .serve (.release _ _) => True
  | .call ticket chore => service.chores[ticket]? = none ∧ ∀ order, chore ≠ .flushAll order
  | .step _ => True
  | _ => False

instance (service : Service) : (action : ServiceAction) → Decidable (service.Usual action)
  | .serve (.perform (.begin ticket operation)) =>
      inferInstanceAs (Decidable (service.engine.tasks[ticket]? = none ∧ operation.Plain ∧
        ∀ file ∈ operation.file?, service.database.catalog.file file.id = .ok file))
  | .call _ (.flushAll order) => isFalse fun usual => usual.2 order rfl
  | .call ticket (.flushPage _) | .call ticket (.flushTransaction _) | .call ticket (.commit _)
  | .call ticket (.abort _) =>
      decidable_of_iff (service.chores[ticket]? = none)
        ⟨fun unused => ⟨unused, nofun⟩, fun usual => usual.1⟩
  | .serve (.perform (.turn _)) | .serve (.release _ _) | .step _ => isTrue trivial
  | .serve (.perform (.commit _)) | .serve (.perform (.abort _)) | .serve (.commitRefused _ _)
  | .serve (.flush _) | .serve .flushAll | .serve (.discard _) | .serve (.interrupt _)
  | .serve (.edit _ _) | .serve (.append _) | .serve (.createTable _ _ _)
  | .serve (.openTable _ _ _) | .serve (.openFile _ _ _ _) | .serve (.register _ _)
  | .serve .clearCatalog | .beginRefused _ _ _ _ | .turnRefused _ _ _ | .appendRefused _ _
  | .stepRefused _ _ => isFalse id

/-- What is asked for is usual, and nothing is done for a transaction that is ending. -/
structure Ordinary (service : Service) (action : ServiceAction) : Prop where
  usual : service.Usual action
  orderly : service.Orderly action

instance (service : Service) (action : ServiceAction) : Decidable (service.Ordinary action) :=
  decidable_of_iff (service.Usual action ∧ service.Orderly action)
    ⟨fun both => ⟨both.1, both.2⟩, fun ordinary => ⟨ordinary.usual, ordinary.orderly⟩⟩

section

variable {service : Service} {action : ServiceAction} {current next : Database} {stride : Stride}

theorem Usual.proper (usual : service.Usual action) : service.Proper action := by
  constructor
  · rintro plain same
    cases action with
    | serve asked =>
        cases same
        cases plain with
        | perform action =>
            cases action with
            | begin ticket operation => exact ⟨⟨usual.1, usual.2.1⟩, rfl⟩
            | turn ticket => exact ⟨trivial, rfl⟩
            | _ => exact usual.elim
        | release transaction page => exact ⟨trivial, rfl⟩
        | _ => exact usual.elim
    | call ticket chore => cases same
    | step ticket => cases same
    | _ => exact usual.elim
  · rintro ticket chore rfl
    cases chore with
    | flushAll order => exact absurd rfl (usual.2 order)
    | _ => exact usual.1

theorem Ordinary.proper (ordinary : service.Ordinary action) : service.Proper action :=
  ordinary.usual.proper

theorem Ordinary.inTurn (ordinary : service.Ordinary action) : service.InTurn action :=
  ⟨ordinary.proper, ordinary.orderly⟩

private theorem Usual.recatalogues (usual : service.Usual action) :
    action.recatalogues = false := by
  cases action with
  | serve action => cases action <;> first | rfl | exact usual.elim
  | call ticket chore => rfl
  | step ticket => rfl
  | _ => exact usual.elim

structure Regular (service : Service) : Prop where
  grounded : service.Grounded
  attended : service.Attended
  backed : service.database.Backed
  registered : ∀ (ticket : Nat) task, service.engine.tasks[ticket]? = some task →
    ∀ file, task.file? = some file → ∃ table, service.database.catalog.file table = .ok file
  /-- Nobody is about to empty the pool. -/
  filled : ∀ (ticket : Nat) stage, service.chores[ticket]? = some stage → stage.clears = false

private theorem ordinary_of_plain {plain : DatabaseAction} {move : Move}
    (makes : service.engine.Makes plain current move) (regular : service.Regular)
    (usual : service.Usual (.serve plain))
    (same : current.catalog = service.database.catalog) :
    Stride.Ordinary current (.move move) := by
  have plainly := usual.proper.plain plain rfl
  have grows {file : TableFile} {table : TableId}
      (registered : service.database.catalog.file table = .ok file) :
      Stride.Ordinary current (.move (.grow file)) :=
    .grow ((congrArg (Catalog.file · table) same).trans registered)
  cases makes with
  | begin own =>
      rcases own with brought | ⟨table, registered⟩
      · exact grows (usual.2.2 _ brought)
      · exact grows registered
  | acquire found => exact .lock _
  | turn found _ makes =>
      cases makes with
      | note _ => exact .note _ _
      | evict page => exact .evict page
      | arrive _ => exact .arrive _
      | edit _ _ _ _ _ _ => exact .edit _ _ _
      | grow own =>
          obtain ⟨table, registered⟩ := regular.registered _ _ found _ own
          exact grows registered
  | ending ends _ => exact absurd ends (Engine.not_ends_of_plain plainly.2 _)
  | clear clears => cases clears.isChore.symm.trans plainly.2
  | release => exact .lock _
  | reopen opens =>
      cases plain with
      | perform action => cases opens
      | release transaction page => cases opens
      | _ => exact usual.elim
  | recatalogue recatalogues => cases recatalogues.symm.trans usual.recatalogues
  | _ => exact usual.elim

theorem Makes.ordinary (makes : service.Makes action current stride) (regular : service.Regular)
    (usual : service.Usual action) (within : service.Within action current) :
    stride.Ordinary current := by
  have same := within.catalog_eq usual.recatalogues
  cases makes with
  | plain plainly makes _ =>
      cases action with
      | serve action =>
          cases plainly
          exact ordinary_of_plain makes regular usual same
      | call ticket chore => cases plainly
      | step ticket => cases plainly
      | _ => exact usual.elim
  | fray plainly _ refused =>
      cases action with
      | serve action => exact absurd rfl (refused action)
      | call ticket chore => cases plainly
      | step ticket => cases plainly
      | _ => exact usual.elim
  | save _ _ => exact .save _
  | copy _ => exact .copy _ _
  | tear _ => exact usual.elim
  | empty under => cases regular.filled _ _ under
  | drop _ _ => exact .drop _
  | forget _ => exact .forget _
  | release _ => exact .lock _

theorem Regular.serve_keeps (regular : service.Regular) (usual : service.Usual action)
    (kept : Database → Prop)
    (step : ∀ current next stride, current.Steady → current.Backed → kept current →
      service.Makes action current stride → stride.Ordinary current →
        current.Strides stride next → kept next)
    (start : kept service.database) :
    (service.serve action).database.Backed ∧ kept (service.serve action).database :=
  regular.grounded.serve_keeps usual.proper (fun current => current.Backed ∧ kept current)
    (fun current next stride steady within both makes strides =>
      have ordinary := makes.ordinary regular usual within
      ⟨strides.backed ordinary steady both.1,
        step current next stride steady both.1 both.2 makes ordinary strides⟩)
    ⟨regular.backed, start⟩

theorem Regular.catalog (regular : service.Regular) (usual : service.Usual action) :
    (service.serve action).database.catalog = service.database.catalog := by
  refine (regular.serve_keeps usual
    (fun current => current.catalog = service.database.catalog) ?_ rfl).2
  intro current next stride _ _ same _ ordinary strides
  rw [strides.catalog, ← same]
  cases ordinary <;> rfl

theorem Regular.serve (regular : service.Regular) (ordinary : service.Ordinary action) :
    (service.serve action).Regular := by
  have proper := ordinary.proper
  refine ⟨(regular.grounded.serve proper).2,
    regular.attended.serve regular.grounded proper ordinary.orderly,
    (regular.serve_keeps ordinary.usual (fun _ => True) (fun _ _ _ _ _ _ _ _ _ => trivial)
      trivial).1, ?_, ?_⟩
  · intro ticket task found file own
    rw [regular.catalog ordinary.usual]
    rcases task_cases found with before | ⟨plain, rfl, foundNext⟩
    · exact regular.registered ticket task before file own
    · have engine := regular.grounded.engine
      have properly := (proper.plain plain rfl).1
      rcases engine.task_cases properly foundNext with
        before | ⟨operation, rfl, begun⟩ | ⟨task, rfl, foundBefore, permits, goesOn⟩
      · exact regular.registered ticket _ before file own
      · have starts := Database.starts_ofOperation service.engine.database properly.2
        rcases (starts.goesOn _ begun).2.2 file own with brought | registered
        · exact ⟨_, ordinary.usual.2.2 file brought⟩
        · exact registered
      · rw [((engine.works foundBefore permits).goesOn _ goesOn).2.2] at own
        exact regular.registered ticket task foundBefore file own
  · intro ticket stage under
    cases brings_serve under with
    | stays before _ => exact regular.filled ticket stage before
    | begins chore calls same =>
        subst calls same
        cases chore with
        | flushAll order => exact absurd rfl (ordinary.usual.2 order)
        | _ => rfl
    | advances before _ was goesOn =>
        rw [Stage.clears_advance goesOn]
        exact regular.filled ticket before was

theorem Regular.serveEach (regular : service.Regular) {actions : List ServiceAction}
    (ordinary : service.Along Ordinary actions) : (service.serveEach actions).Regular :=
  ordinary.keeps Regular (fun _ _ regular ordinary => regular.serve ordinary) regular

end

end Service

end RowStore
