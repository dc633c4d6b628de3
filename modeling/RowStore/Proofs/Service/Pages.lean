import RowStore.Proofs.Service.Tenure

/-!
Pages beside chores: what the disk has of a page, and what it is going to have, as long as its file
is the only one at its path. A chore that drops pages at its end has saved them before, unless they
were changed while it was under way.
-/

set_option autoImplicit false

namespace RowStore

namespace ServiceAction

def file? (action : ServiceAction) : Option TableFile :=
  action.plain?.bind DatabaseAction.file?

def opens? (action : ServiceAction) : Option (String × Volume.Opening) :=
  action.plain?.bind DatabaseAction.opens?

def chore? : ServiceAction → Option Nat
  | .step ticket => some ticket
  | .stepRefused ticket _ => some ticket
  | _ => none

end ServiceAction

def Purpose.Discards (page : PageId) : Purpose → Prop
  | .write => False
  | .clear => True
  | .complete _ pages => page ∈ pages

instance (page : PageId) : (purpose : Purpose) → Decidable (purpose.Discards page)
  | .write => isFalse id
  | .clear => isTrue trivial
  | .complete _ pages => inferInstanceAs (Decidable (page ∈ pages))

namespace Stage

def Writes (page : PageId) : Stage → Prop
  | .writing written _ _ _ => written = page
  | _ => False

instance (page : PageId) : (stage : Stage) → Decidable (stage.Writes page)
  | .writing written _ _ _ => inferInstanceAs (Decidable (written = page))
  | .visiting _ _ | .forgetting _ | .releasing _ => isFalse id

/-- A copy of the page is about to be written that is not the one in the pool, though that one has no
changes to be written. -/
def Outdated (database : Database) (page : PageId) : Stage → Prop
  | .writing written frame _ _ =>
      written = page ∧ database.pool.resident[page]? ≠ some frame ∧
        database.pool.frames[frame]?.any Page.isDirty = true ∧
          database.pool.unsaved? page = none
  | _ => False

instance (database : Database) (page : PageId) :
    (stage : Stage) → Decidable (stage.Outdated database page)
  | .writing written frame _ _ =>
      inferInstanceAs (Decidable (written = page ∧ database.pool.resident[page]? ≠ some frame ∧
        database.pool.frames[frame]?.any Page.isDirty = true ∧
          database.pool.unsaved? page = none))
  | .visiting _ _ | .forgetting _ | .releasing _ => isFalse id

end Stage

namespace Service

def Writes (service : Service) (page : PageId) (action : ServiceAction) : Prop :=
  ∃ ticket ∈ action.chore?, ∃ stage ∈ service.chores[ticket]?, stage.Writes page

instance (service : Service) (page : PageId) (action : ServiceAction) :
    Decidable (service.Writes page action) :=
  inferInstanceAs (Decidable (∃ ticket ∈ action.chore?, ∃ stage ∈ service.chores[ticket]?,
    stage.Writes page))

/-- A chore writes an older copy of the page over what the disk has. -/
def Overwrites (service : Service) (page : PageId) (action : ServiceAction) : Prop :=
  ∃ ticket ∈ action.chore?, ∃ stage ∈ service.chores[ticket]?,
    stage.Outdated service.database page

instance (service : Service) (page : PageId) (action : ServiceAction) :
    Decidable (service.Overwrites page action) :=
  inferInstanceAs (Decidable (∃ ticket ∈ action.chore?, ∃ stage ∈ service.chores[ticket]?,
    stage.Outdated service.database page))

/-- The action leaves the file the only one at its path that anybody knows, and does not empty
it. -/
structure Upholds (file : TableFile) (service : Service) (action : ServiceAction) : Prop where
  names : (service.serve action).database.catalog.Names file
  opens : action.opens? ≠ some (file.path, .truncating)
  brings : ∀ other ∈ action.file?, other.path = file.path → other = file

instance (file : TableFile) (service : Service) (action : ServiceAction) :
    Decidable (Upholds file service action) :=
  decidable_of_iff ((service.serve action).database.catalog.Names file ∧
      action.opens? ≠ some (file.path, .truncating) ∧
      ∀ other ∈ action.file?, other.path = file.path → other = file)
    ⟨fun all => ⟨all.1, all.2.1, all.2.2⟩, fun upholds =>
      ⟨upholds.names, upholds.opens, upholds.brings⟩⟩

section

variable {service : Service} {action : ServiceAction} {file : TableFile} {current : Database}
  {stride : Stride} {page : PageId}

/-- An operation under way was so before, or comes of what the engine is asked for. -/
theorem task_cases {ticket : Nat} {task : Task}
    (found : (service.serve action).engine.tasks[ticket]? = some task) :
    service.engine.tasks[ticket]? = some task ∨
      ∃ plain, action = .serve plain ∧
        (service.engine.serve plain).tasks[ticket]? = some task := by
  have erased {other : Nat} (found : (service.engine.tasks.erase other)[ticket]? = some task) :
      service.engine.tasks[ticket]? = some task := by
    rw [Std.ExtTreeMap.getElem?_erase] at found
    split at found
    · cases found
    · exact found
  unfold Service.serve at found
  cases action with
  | serve plain => exact .inr ⟨plain, rfl, found⟩
  | beginRefused begun operation refusal cause =>
      dsimp only at found
      split at found
      · rename_i refuses
        obtain ⟨reached, _, rfl⟩ := beginRefused?_eq_some refuses
        exact .inl (erased found)
      · exact .inl found
  | turnRefused turned refusal cause =>
      dsimp only at found
      split at found
      · rename_i refuses
        obtain ⟨_, reached, _, _, _, rfl⟩ := turnRefused?_eq_some refuses
        exact .inl (erased found)
      · exact .inl found
  | appendRefused file written => exact .inl found
  | call called chore => exact .inl found
  | step stepped =>
      cases under : service.chores[stepped]? with
      | none =>
          dsimp only [Service.step] at found
          rw [under] at found
          exact .inl found
      | some stage =>
          dsimp only at found
          rw [step_of_stage under, engine_note] at found
          exact .inl found
  | stepRefused stepped written =>
      dsimp only at found
      cases refuses : service.stepRefused? stepped written with
      | none =>
          rw [refuses] at found
          exact .inl found
      | some next =>
          obtain ⟨_, _, _, _, reached, _, _, same⟩ := stepRefused?_eq_some refuses
          rw [refuses, Option.getD_some, same (.ok ()), engine_note] at found
          exact .inl found

theorem Grounded.numbering (grounded : service.Grounded) (proper : service.Proper action) :
    (service.serve action).database.numbering = service.database.numbering :=
  grounded.serve_keeps proper (fun current => current.numbering = service.database.numbering)
    (fun _ _ _ _ _ same _ strides => strides.numbering.trans same) rfl

theorem Grounded.hosts (grounded : service.Grounded) (proper : service.Proper action)
    (upholds : Upholds file service action) (hosts : service.engine.Hosts file) :
    (service.serve action).engine.Hosts file := by
  have numbering := grounded.numbering proper
  refine ⟨?_, upholds.names, ?_⟩
  · unfold Service.database at numbering
    rw [numbering]
    exact hosts.numbered
  · intro ticket task found
    rcases task_cases found with before | ⟨plain, rfl, foundNext⟩
    · exact hosts.tasks ticket task before
    · exact (hosts.serve grounded.engine (proper.plain plain rfl).1
        ⟨upholds.names, upholds.opens, upholds.brings⟩).tasks ticket task foundNext

/-! ### What the disk has of a page -/

/-- The catalog is as it was before while bytes pass between the pool and the disk. -/
private theorem Makes.keeps_catalog (makes : service.Makes action current stride)
    (transfers : stride.Transfers) : action.recatalogues = false := by
  cases makes with
  | @plain _ plain _ move same makes _ =>
      have kept : plain.recatalogues = false := by
        cases move with
        | save page => exact makes.keeps_catalog (.inl ⟨page, rfl⟩)
        | arrive content => exact makes.keeps_catalog (.inr ⟨content, rfl⟩)
        | _ => exact transfers.elim
      unfold ServiceAction.recatalogues
      rw [same]
      exact kept
  | fray _ _ _ => exact transfers.elim
  | _ => rfl

theorem Makes.heeds (makes : service.Makes action current stride)
    (hosts : service.engine.Hosts file) (steady : service.database.Steady)
    (upholds : Upholds file service action) (within : service.Within action current) :
    current.Heeds file stride := by
  refine ⟨?_, ?_, ?_, ?_⟩
  · rw [within.numbering]
    exact hosts.numbered
  · intro transfers
    rw [within.catalog_eq (makes.keeps_catalog transfers)]
    exact hosts.names
  · intro other grows samePath
    have brings {plain : DatabaseAction} (same : action.plain? = some plain) :
        ∀ other ∈ plain.file?, other.path = file.path → other = file := by
      intro other own
      refine upholds.brings other ?_
      unfold ServiceAction.file?
      rw [same]
      exact own
    cases makes with
    | plain same makes _ =>
        rcases grows with grows | grows
        · cases grows
          exact hosts.grows steady (brings same) makes.grows samePath
        · cases grows
    | fray same growing _ =>
        rcases grows with grows | grows
        · cases grows
        · cases grows
          exact hosts.grows steady (brings same) growing samePath
    | _ => rcases grows with grows | grows <;> cases grows
  · rintro path opening rfl samePath
    cases makes with
    | plain same makes _ =>
        cases opening with
        | keeping => rfl
        | truncating =>
            refine absurd ?_ upholds.opens
            unfold ServiceAction.opens?
            rw [same, ← samePath]
            exact makes.opens

theorem Makes.writes (makes : service.Makes action current stride)
    (proper : service.Proper action) (writes : stride.WritesTo page) :
    service.Writes page action := by
  cases makes with
  | @plain _ plain _ move same makes _ =>
      cases move with
      | save saved => cases makes.writes.isChore.symm.trans (proper.plain plain same).2
      | _ => exact writes.elim
  | save under _ => exact ⟨_, rfl, _, under, writes⟩
  | copy under => exact ⟨_, rfl, _, under, writes⟩
  | tear under => exact ⟨_, rfl, _, under, writes⟩
  | _ => exact writes.elim

/-- The bytes of a page on the disk stay as they are unless a chore writes the page. -/
theorem Grounded.image? (grounded : service.Grounded) (proper : service.Proper action)
    (hosts : service.engine.Hosts file) (upholds : Upholds file service action) {number : Nat}
    (unwritten : ¬service.Writes (file.pageId number) action) {bytes : List UInt8}
    (onDisk : file.image? service.database.volume number = some bytes) :
    file.image? (service.serve action).database.volume number = some bytes := by
  refine grounded.serve_keeps proper
    (fun current => file.image? current.volume number = some bytes) ?_ onDisk
  intro current next stride steady within onDisk makes strides
  refine strides.image? steady (makes.heeds hosts grounded.engine.steady upholds within) ?_ onDisk
  intro writes
  exact unwritten (makes.writes proper writes)

end

/-! ### Pages that nobody changes -/

structure Leaves (service : Service) (action : ServiceAction) (page : PageId) (current : Database)
    (stride : Stride) : Prop where
  steady : current.Steady
  within : service.Within action current
  makes : service.Makes action current stride
  unedited : ∀ frame edits content, stride = .move (.edit frame edits) →
    current.pool.residentFrame? page ≠ some (frame, content)

/-- The action is a row of strides that do not change the page in the pool. -/
def Unaltered (service : Service) (action : ServiceAction) (page : PageId) : Prop :=
  Trail (service.Leaves action page) service.database (service.serve action).database

/-- An operation that has come to the page changes it, or whoever has a frame of the page does. -/
def Touches (service : Service) (page : PageId) : ServiceAction → Prop
  | .serve (.perform (.turn ticket)) =>
      ∃ task ∈ service.engine.tasks[ticket]?, task.isEdit = true ∧ task.request.page = page
  | .serve (.edit frame _) => service.database.pool.frames[frame]?.map Page.id = some page
  | _ => False

def Drops (service : Service) (page : PageId) : ServiceAction → Prop
  | .step ticket =>
      ∃ purpose : Purpose, service.chores[ticket]? = some (.visiting [] purpose) ∧
        purpose.Discards page
  | .serve action => action = .discard page
  | _ => False

section

variable {service : Service} {action : ServiceAction} {file : TableFile} {current : Database}
  {stride : Stride} {page : PageId} {transaction : TransactionId}

theorem Makes.discards (makes : service.Makes action current stride)
    (proper : service.Proper action)
    (drops : stride = .move (.drop page) ∨ stride = .empty) : service.Drops page action := by
  rcases drops with rfl | rfl
  · cases makes with
    | @plain _ plain _ _ same makes _ =>
        rcases makes.drop with ⟨other, ends, _⟩ | rfl
        · exact absurd ends (Engine.not_ends_of_plain (proper.plain plain same).2 other)
        · cases action with
          | serve plain =>
              cases same
              rfl
          | _ => cases same
    | drop under member => exact ⟨_, under, member⟩
  · cases makes with
    | empty under => exact ⟨_, under, trivial⟩

theorem Makes.recent {next : Database} (makes : service.Makes action current stride)
    (strides : current.Strides stride next) (writes : stride.WritesTo page) (recent : ¬service.Overwrites page action) :
    current.pool.unsaved? page ≠ none := by
  intro saved
  have stale {ticket frame : Nat} {rest : List PageId} {purpose : Purpose} {content : Page}
      (steps : ticket ∈ action.chore?)
      (under : service.chores[ticket]? = some (.writing page frame rest purpose))
      (held : service.database.pool.frames[frame]? = some content)
      (dirty : content.isDirty = true) (savedNow : service.database.pool.unsaved? page = none) :
      False := by
    refine recent ⟨ticket, steps, _, under, rfl, ?_, ?_, savedNow⟩
    · intro resident
      have unsaved := Pool.unsaved?_eq_some.mpr
        ⟨⟨frame, Pool.residentFrame?_eq_some.mpr ⟨resident, held⟩⟩, dirty⟩
      cases savedNow.symm.trans unsaved
    · rw [held]
      exact dirty
  cases strides with
  | move moves =>
      cases moves with
      | save found dirty registered length =>
          cases writes
          cases saved.symm.trans (Pool.unsaved?_eq_some.mpr ⟨⟨_, found⟩, dirty⟩)
      | _ => exact writes.elim
  | copy held _ _ dirty _ _ =>
      cases makes with
      | copy under =>
          cases writes
          exact stale rfl under held dirty saved
  | tear _ held _ dirty _ _ =>
      cases makes with
      | tear under =>
          cases writes
          exact stale rfl under held dirty saved
  | _ => exact writes.elim

theorem Grounded.unaltered (grounded : service.Grounded) (proper : service.Proper action)
    (kept : Database → Prop)
    (step : ∀ current next stride, kept current → service.Makes action current stride →
      current.Strides stride next → kept next) (start : kept service.database)
    (unedited : ∀ current frame edits content, current.Steady → kept current →
      service.Makes action current (.move (.edit frame edits)) →
        current.pool.residentFrame? page ≠ some (frame, content)) :
    service.Unaltered action page := by
  have steady := grounded.engine.steady
  refine ((grounded.serve proper).1.refine
    (fun current => service.Within action current ∧ kept current) steady
    (fun current next stride _ holds makes strides => ⟨holds.1.strides makes strides,
      step current next stride holds.2 makes strides⟩) ⟨⟨rfl, .inl rfl⟩, start⟩).mono ?_
  rintro current stride ⟨steady, ⟨within, holds⟩, makes⟩
  refine ⟨steady, within, makes, ?_⟩
  rintro frame edits content rfl
  exact unedited current frame edits content steady holds makes

theorem Grounded.unaltered_of_untouched (grounded : service.Grounded)
    (proper : service.Proper action) (untouched : ¬service.Touches page action) :
    service.Unaltered action page := by
  refine grounded.unaltered proper (fun _ => True) (fun _ _ _ _ _ _ => trivial) trivial ?_
  intro current frame edits content steady _ makes found
  cases makes with
  | plain _ makes whole =>
      cases whole frame edits rfl
      cases makes.edits with
      | @turn _ task _ other _ foundTask edits resident _ _ _ _ =>
          refine untouched ⟨task, foundTask, edits, ?_⟩
          have same := (Pool.residentFrame?_eq_some.mp found).2.symm.trans
            (Pool.residentFrame?_eq_some.mp resident).2
          cases same
          exact (steady.sound.id_eq resident).symm.trans (steady.sound.id_eq found)
      | edit _ =>
          refine untouched ?_
          have held := (Pool.residentFrame?_eq_some.mp found).2
          change service.engine.database.pool.frames[frame]?.map Page.id = some page
          rw [held]
          exact congrArg some (steady.sound.id_eq found)

theorem Grounded.unaltered_of_holds (grounded : service.Grounded) (attended : service.Attended)
    (proper : service.Proper action) (holds : service.database.Holds transaction page)
    (keeps : ¬action.Yields page) (goesOn : ¬service.Frees transaction action)
    (unwritten : ¬service.Rewrites transaction page action) : service.Unaltered action page := by
  refine grounded.unaltered proper (fun current => current.Holds transaction page)
    (fun _ _ _ holds makes strides => attended.holds proper makes strides
      (ServiceAction.not_releases keeps) goesOn holds) holds ?_
  intro current frame edits content steady holds makes found
  have own := steady.sound.id_eq found
  have rewrites := makes.rewrites steady (Pool.residentFrame?_eq_some.mp found).2
    (by rw [own]; exact holds)
  rw [own] at rewrites
  exact unwritten rewrites

theorem Unaltered.saved (unaltered : service.Unaltered action page)
    (steady : service.database.Steady) (saved : service.database.pool.unsaved? page = none) :
    (service.serve action).database.pool.unsaved? page = none :=
  unaltered.keeps (fun current => current.pool.unsaved? page = none) steady
    (fun _ _ _ _ saved leaves strides => strides.saved leaves.steady leaves.unedited saved) saved

theorem Unaltered.resident (unaltered : service.Unaltered action page)
    (steady : service.database.Steady) {frame : Nat}
    (resident : service.database.pool.resident[page]? = some frame) :
    (service.serve action).database.pool.unsaved? page = none ∨
      (service.serve action).database.pool.resident[page]? = some frame := by
  refine unaltered.keeps (fun current => current.pool.unsaved? page = none ∨
    current.pool.resident[page]? = some frame) steady ?_ (.inr resident)
  rintro current next stride _ (saved | resident) leaves strides
  · exact .inl (strides.saved leaves.steady leaves.unedited saved)
  · obtain ⟨_, content, held, _⟩ := leaves.steady.sound page frame resident
    have found := Pool.residentFrame?_eq_some.mpr ⟨resident, held⟩
    cases foundNext : next.pool.residentFrame? page with
    | none => exact .inl (Pool.unsaved?_of_absent foundNext)
    | some entry =>
        obtain ⟨heldNext, changed⟩ := entry
        cases strides.frame_eq leaves.steady found foundNext
        exact .inr (Pool.residentFrame?_eq_some.mp foundNext).1

/-- A page goes on being due with the same bytes if nobody changes it, its changes are not dropped,
and no older copy is written over it. -/
theorem Unaltered.due? {number : Nat} (unaltered : service.Unaltered action (file.pageId number))
    (proper : service.Proper action) (steady : service.database.Steady)
    (hosts : service.engine.Hosts file) (upholds : Upholds file service action)
    (undropped : service.Drops (file.pageId number) action →
      service.database.pool.unsaved? (file.pageId number) = none)
    (current : ¬service.Overwrites (file.pageId number) action) {bytes : List UInt8}
    (due : service.database.due? file number = some bytes) :
    (service.serve action).database.due? file number = some bytes := by
  have both := unaltered.keeps (fun current =>
    (service.database.pool.unsaved? (file.pageId number) = none →
      current.pool.unsaved? (file.pageId number) = none) ∧ current.due? file number = some bytes)
    steady ?_ ⟨id, due⟩
  · exact both.2
  · rintro database next stride _ ⟨saved, due⟩ leaves strides
    refine ⟨fun before => strides.saved leaves.steady leaves.unedited (saved before), ?_⟩
    refine strides.due? leaves.steady (leaves.makes.heeds hosts steady upholds leaves.within)
      (fun drops => saved (undropped (leaves.makes.discards proper drops))) leaves.unedited ?_ due
    exact fun writes => leaves.makes.recent strides writes current

end

end Service

end RowStore
