import Mathlib.Data.List.Induction
import RowStore.Proofs.Database.Samples
import RowStore.Proofs.Database.Sparing
import RowStore.Proofs.Service.Saving

/-!
Custody along runs: whatever is asked of a pool, in any order and for any choice of what it drops
to make room, it keeps within its capacity. A page with changes leaves it only when it is dropped by
its name, with a transaction that meant to write it, or when the pool is emptied, which writes the
page before unless it is changed meanwhile. The pages of the disk change only in the steps of chores
that write pages back.
-/

set_option autoImplicit false

namespace RowStore

/-! ### Actions -/

/-- What can be asked of a pool, at any time and in any order. The last steps of loading a page and
of changing one are actions of their own as well, so that anything may come before them. -/
inductive PoolAction where
  | serve (action : ServiceAction)
  /-- A page that was read comes to the pool, unless it is there by now. -/
  | arrive (content : Page)
  /-- Whoever has a frame changes what it holds, without telling the pool. -/
  | edit (frame : Nat) (content : Page)
  /-- A frame that was handed out becomes the one in the pool, as changed by the transaction. -/
  | absorb (transaction : TransactionId) (frame : Nat)
  deriving DecidableEq, Repr

def Chore.clears : Chore → Bool
  | .flushAll _ => true
  | _ => false

namespace Stage

def Awaits (page : PageId) : Stage → Prop
  | .visiting pages _ => page ∈ pages
  | .writing _ _ rest _ => page ∈ rest
  | _ => False

instance (page : PageId) : (stage : Stage) → Decidable (stage.Awaits page)
  | .visiting pages _ => inferInstanceAs (Decidable (page ∈ pages))
  | .writing _ _ rest _ => inferInstanceAs (Decidable (page ∈ rest))
  | .forgetting _ | .releasing _ => isFalse id

structure Serves (stage : Stage) (chore : Chore) (calling : Database) : Prop where
  clears : stage.clears = chore.clears
  drops : ∀ transaction pages, stage.drops? = some (transaction, pages) →
    chore.ends? = some transaction ∧ pages = calling.pool.writtenBy transaction
  idle : ∀ transaction, chore = .abort transaction → ∀ page, ¬stage.Visits page

theorem serves_stage (chore : Chore) (calling : Database) :
    (chore.stage calling).Serves chore calling := by
  constructor
  · cases chore <;> rfl
  · intro transaction pages drops
    cases chore with
    | commit _ =>
        cases drops
        exact ⟨rfl, rfl⟩
    | abort _ =>
        cases drops
        exact ⟨rfl, rfl⟩
    | _ => cases drops
  · rintro transaction rfl page
    exact List.not_mem_nil

theorem Serves.advance {database calling : Database} {before stage : Stage} {chore : Chore}
    (serves : before.Serves chore calling)
    (goesOn : (before.advance database).2 = .onwards stage) : stage.Serves chore calling where
  clears := (clears_advance goesOn).trans serves.clears
  drops := fun transaction pages drops =>
    serves.drops transaction pages (Service.drops?_advance goesOn drops)
  idle := fun transaction aborts page visits =>
    serves.idle transaction aborts page (Service.visits_advance goesOn visits)

end Stage

namespace Database

end Database

namespace Service

/-! ### Runs -/

def act (service : Service) : PoolAction → Service
  | .serve action => service.serve action
  | .arrive content =>
      if service.database.pool.isCached content.id then service
      else
        match service.database.pool.installNew content with
        | .ok (pool, _) =>
            service.setEngine (service.engine.setDatabase { service.database with pool := pool })
        | .error _ => service
  | .edit frame content =>
      service.setEngine (service.engine.setDatabase (service.database.setFrame frame content))
  | .absorb transaction frame =>
      match service.database.pool.frames[frame]? with
      | some content =>
          service.setEngine (service.engine.setDatabase
            (service.database.absorb transaction frame content).1)
      | none => service

def actEach (service : Service) (actions : List PoolAction) : Service :=
  actions.foldl act service

theorem actEach_append (service : Service) (actions more : List PoolAction) :
    service.actEach (actions ++ more) = (service.actEach actions).actEach more :=
  List.foldl_append

def Acting (service : Service) (allowed : Service → PoolAction → Prop) : List PoolAction → Prop
  | [] => True
  | action :: rest => allowed service action ∧ (service.act action).Acting allowed rest

def decideActing (service : Service) (allowed : Service → PoolAction → Prop)
    [∀ service action, Decidable (allowed service action)] :
    (actions : List PoolAction) → Decidable (service.Acting allowed actions)
  | [] => isTrue trivial
  | action :: rest =>
      have := (service.act action).decideActing allowed rest
      inferInstanceAs (Decidable (_ ∧ _))

instance (service : Service) (allowed : Service → PoolAction → Prop)
    [∀ service action, Decidable (allowed service action)] (actions : List PoolAction) :
    Decidable (service.Acting allowed actions) :=
  service.decideActing allowed actions

/-- What the engine is asked for while the catalog stays as it is: rows go to registered files. -/
def AsksPlainly (service : Service) : DatabaseAction → Prop
  | .perform (.begin _ operation) => operation.Registered service.database.catalog
  | .perform (.turn _) => True
  | .discard _ => True
  | .release _ _ => True
  | .interrupt _ => True
  | .append file => service.database.catalog.file file.id = .ok file
  | _ => False

instance (service : Service) : (action : DatabaseAction) → Decidable (service.AsksPlainly action)
  | .perform (.begin _ operation) =>
      inferInstanceAs (Decidable (operation.Registered service.database.catalog))
  | .append file => inferInstanceAs (Decidable (service.database.catalog.file file.id = .ok file))
  | .perform (.turn _) | .discard _ | .release _ _ | .interrupt _ => isTrue trivial
  | .perform (.commit _) | .perform (.abort _) | .commitRefused _ _ | .flush _ | .flushAll
  | .edit _ _ | .createTable _ _ _ | .openTable _ _ _ | .openFile _ _ _ _ | .register _ _
  | .clearCatalog => isFalse id

/-- Only frames that were handed out are edited or taken over, an edit leaves a page the one that it
is, and a page that was read has no changes. Pages are written back, and transactions end, in chores,
which begin as they may. -/
def Allowed (service : Service) : PoolAction → Prop
  | .serve (.call ticket chore) => service.Admits ticket chore
  | .serve action => ∀ plain ∈ action.plain?, service.AsksPlainly plain
  | .arrive content => content.isDirty = false
  | .edit frame content => service.database.pool.frames[frame]?.map Page.id = some content.id
  | .absorb _ frame => frame < service.database.pool.nextFrame

instance (service : Service) : (action : PoolAction) → Decidable (service.Allowed action)
  | .serve (.call ticket chore) => inferInstanceAs (Decidable (service.Admits ticket chore))
  | .serve (.serve action) =>
      inferInstanceAs (Decidable (∀ plain ∈ some action, service.AsksPlainly plain))
  | .serve (.beginRefused ticket operation refusal cause) =>
      inferInstanceAs (Decidable (∀ plain ∈ (ServiceAction.beginRefused ticket operation refusal
        cause).plain?, service.AsksPlainly plain))
  | .serve (.turnRefused ticket refusal cause) =>
      inferInstanceAs (Decidable (∀ plain ∈ (ServiceAction.turnRefused ticket refusal cause).plain?,
        service.AsksPlainly plain))
  | .serve (.appendRefused file written) =>
      inferInstanceAs (Decidable (∀ plain ∈ (ServiceAction.appendRefused file written).plain?,
        service.AsksPlainly plain))
  | .serve (.step ticket) =>
      inferInstanceAs (Decidable (∀ plain ∈ (ServiceAction.step ticket).plain?,
        service.AsksPlainly plain))
  | .serve (.stepRefused ticket written) =>
      inferInstanceAs (Decidable (∀ plain ∈ (ServiceAction.stepRefused ticket written).plain?,
        service.AsksPlainly plain))
  | .arrive content => inferInstanceAs (Decidable (content.isDirty = false))
  | .edit frame content =>
      inferInstanceAs
        (Decidable (service.database.pool.frames[frame]?.map Page.id = some content.id))
  | .absorb _ frame => inferInstanceAs (Decidable (frame < service.database.pool.nextFrame))

/-! ### What comes of a page with changes -/

/-- What may come of a page with changes when an action is taken: `content` is what it has in its
frame before. It stays in the pool, or it is dropped on purpose. -/
inductive Fate (service : Service) (after : Database) (page : PageId) (frame : Nat)
    (content : Page) : PoolAction → Prop where
  -- It stays, with changes unless they were written back or taken back by an edit.
  | unsaved {action : PoolAction} {changed : Page}
      (found : after.pool.residentFrame? page = some (frame, changed))
      (dirty : changed.isDirty = true) : Fate service after page frame content action
  | saved {ticket : Nat} {rest : List PageId} {purpose : Purpose}
      (under : service.chores[ticket]? = some (.writing page frame rest purpose))
      (found : after.pool.residentFrame? page = some (frame, content.mark none))
      (onDisk : after.image? page = some content.encode) :
      Fate service after page frame content (.serve (.step ticket))
  | edited {changed : Page} (found : after.pool.residentFrame? page = some (frame, changed)) :
      Fate service after page frame content (.edit frame changed)
  | replaced {transaction : TransactionId} {held : Nat} {changed : Page}
      (found : after.pool.residentFrame? page = some (held, changed))
      (dirty : changed.isDirty = true) :
      Fate service after page frame content (.absorb transaction held)
  -- It goes.
  | discarded : Fate service after page frame content (.serve (.serve (.discard page)))
  | cleared {ticket : Nat} (under : service.chores[ticket]? = some (.visiting [] .clear)) :
      Fate service after page frame content (.serve (.step ticket))
  | completed {ticket : Nat} {transaction : TransactionId} {pages : List PageId}
      (under : service.chores[ticket]? = some (.visiting [] (.complete transaction pages)))
      (member : page ∈ pages) : Fate service after page frame content (.serve (.step ticket))

structure Tends (service : Service) (after : Database) (action : PoolAction) : Prop where
  catalog : after.catalog = service.database.catalog
  keeps : service.database.pool.Keeps after.pool
  retains : service.database.pool.Retains after.pool
  sound : after.pool.Sound
  fate : ∀ page frame content,
    service.database.pool.residentFrame? page = some (frame, content) → content.isDirty = true →
      service.Fate after page frame content action
  images : ∀ page bytes, service.database.image? page = some bytes →
    after.image? page = some bytes ∨
      ∃ asked, action = .serve asked ∧ service.Writes page asked

section

variable {service : Service} {action : PoolAction} {next : Database}
  {numbering : String → TableId}

theorem tends_of_spares (spares : service.database.Spares next) (action : PoolAction) :
    service.Tends next action where
  catalog := spares.catalog
  keeps := spares.keeps
  retains := spares.retains
  sound := spares.sound
  fate := by
    intro page frame content found dirty
    obtain ⟨changed, kept, still⟩ := spares.unsaved page frame content found dirty
    exact .unsaved kept still
  images := fun page bytes onDisk => .inl (spares.images page bytes onDisk)

private theorem tends_of_drops {pool : Pool} (keeps : service.database.pool.Keeps pool)
    (sound : pool.Sound) (issued : pool.nextFrame = service.database.pool.nextFrame)
    (frames : pool.frames = service.database.pool.frames)
    (fate : ∀ page frame content,
      service.database.pool.residentFrame? page = some (frame, content) →
        content.isDirty = true →
          service.Fate { service.database with pool := pool } page frame content action) :
    service.Tends { service.database with pool := pool } action :=
  ⟨rfl, keeps, .of_frames (Nat.le_of_eq issued.symm) frames, sound, fate,
    fun _ _ onDisk => .inl onDisk⟩

theorem tends_discard (sound : service.database.pool.Sound) (page : PageId) :
    service.Tends (service.database.discard page) (.serve (.serve (.discard page))) := by
  refine tends_of_drops (service.database.pool.keeps_discard page) (sound.discard page) rfl rfl ?_
  intro other frame content found dirty
  by_cases same : other = page
  · subst same
    exact .discarded
  · refine .unsaved ?_ dirty
    exact ((service.database.pool.residentFrame?_discard page other).trans (if_neg same)).trans
      found

private theorem frames_discardEach (pool : Pool) (pages : List PageId) :
    (pool.discardEach pages).frames = pool.frames ∧
      (pool.discardEach pages).nextFrame = pool.nextFrame := by
  unfold Pool.discardEach
  induction pages generalizing pool with
  | nil => exact ⟨rfl, rfl⟩
  | cons page rest ih => exact ih (pool.discard page)

private theorem tends_conclude (sound : service.database.pool.Sound) {ticket : Nat}
    {purpose : Purpose} (under : service.chores[ticket]? = some (.visiting [] purpose)) :
    service.Tends (Stage.conclude service.database purpose).1 (.serve (.step ticket)) := by
  cases purpose with
  | write => exact tends_of_spares (.refl sound) _
  | clear =>
      refine tends_of_drops ⟨rfl, fun _ => Nat.zero_le _⟩ ?_ rfl rfl ?_
      · intro page frame resident
        simp [Pool.discardAll] at resident
      · intro page frame content _ _
        exact .cleared under
  | complete transaction pages =>
      obtain ⟨frames, issued⟩ := frames_discardEach service.database.pool pages
      refine tends_of_drops (service.database.pool.keeps_discardEach pages)
        (sound.discardEach pages) issued frames ?_
      intro page frame content found dirty
      by_cases member : page ∈ pages
      · exact .completed under member
      · refine .unsaved ?_ dirty
        exact ((service.database.pool.residentFrame?_discardEach pages page).trans
          (if_neg member)).trans found

/-- A frame that is written back is clean and on the disk, be it the one in the pool or not. -/
private theorem tends_writes (catalog : service.database.catalog.Sound numbering)
    (sound : service.database.pool.Sound) {ticket frame : Nat} {page : PageId}
    {rest : List PageId} {purpose : Purpose} {content : Page}
    (under : service.chores[ticket]? = some (.writing page frame rest purpose))
    (held : service.database.pool.frames[frame]? = some content) (own : content.id = page)
    (writes : service.database.WritesFrame page frame content next) :
    service.Tends next (.serve (.step ticket)) := by
  rcases writes.cases held with ⟨_, rfl⟩ | ⟨_, file, registered, length, rfl⟩
  · exact tends_of_spares (.refl sound) _
  · refine ⟨rfl, ⟨rfl, fun fits => fits⟩, Pool.retains_setFrame held rfl,
      sound.setFrame_of_held held rfl, ?_, ?_⟩
    · intro other held' old found dirty
      have after := Pool.residentFrame?_setFrame_of_found found frame (content.mark none)
      by_cases same : frame = held'
      · subst same
        rw [if_pos rfl] at after
        cases held.symm.trans (Pool.residentFrame?_eq_some.mp found).2
        cases own.symm.trans (sound.id_eq found)
        exact .saved under after
          (Database.image?_putImage_self registered page.number length)
      · rw [if_neg same] at after
        exact .unsaved after dirty
    · intro other bytes onDisk
      by_cases same : other = page
      · exact .inr ⟨_, rfl, ticket, rfl, _, under, same.symm⟩
      · exact .inl (Database.image?_putImage_of_ne catalog registered length same onDisk)

private theorem tends_tears (catalog : service.database.catalog.Sound numbering)
    (sound : service.database.pool.Sound) {ticket written frame : Nat} {page : PageId}
    {rest : List PageId} {purpose : Purpose} {content : Page}
    (under : service.chores[ticket]? = some (.writing page frame rest purpose))
    (held : service.database.pool.frames[frame]? = some content) (own : content.id = page)
    (tears : service.database.writeFrameInPart? page frame written = some next) :
    service.Tends next (.serve (.stepRefused ticket written)) := by
  have strides := Database.tears_of_some held own tears
  cases strides with
  | tear _ heldAgain _ _ registered length =>
      cases held.symm.trans heldAgain
      subst own
      refine ⟨rfl, .refl _, .refl _, sound, fun _ _ _ found dirty => .unsaved found dirty, ?_⟩
      intro other bytes onDisk
      by_cases same : other = content.id
      · exact .inr ⟨_, rfl, ticket, rfl, _, under, same.symm⟩
      · exact .inl (Database.image?_putInPart_of_ne catalog registered (Nat.le_of_eq length)
          written same onDisk rfl rfl)

private theorem tends_arrive (sound : service.database.pool.Sound) {content : Page}
    (absent : service.database.pool.isCached content.id = false) {pool : Pool} {frame : Nat}
    (installs : service.database.pool.installNew content = .ok (pool, frame))
    (action : PoolAction) : service.Tends { service.database with pool := pool } action := by
  refine tends_of_spares (Database.spares_of_takes (Pool.takes_installNew sound installs) ?_) action
  intro held old found
  cases absent.symm.trans (Pool.isCached_of_residentFrame? found)

private theorem tends_edit (sound : service.database.pool.Sound) {frame : Nat}
    {content changed : Page} (held : service.database.pool.frames[frame]? = some content)
    (id : changed.id = content.id) :
    service.Tends (service.database.setFrame frame changed) (.edit frame changed) := by
  refine ⟨rfl, ⟨rfl, fun fits => fits⟩, Pool.retains_setFrame held id,
    sound.setFrame_of_held held id, ?_, fun _ _ onDisk => .inl onDisk⟩
  intro page own old found dirty
  have after := Pool.residentFrame?_setFrame_of_found found frame changed
  by_cases same : frame = own
  · subst same
    rw [if_pos rfl] at after
    exact .edited after
  · rw [if_neg same] at after
    exact .unsaved after dirty

/-- Taking over a frame makes room by dropping a page without changes, if it has to. -/
private theorem tends_absorb (sound : service.database.pool.Sound) {frame : Nat} {content : Page}
    (issued : frame < service.database.pool.nextFrame)
    (held : service.database.pool.frames[frame]? = some content) (transaction : TransactionId) :
    service.Tends (service.database.absorb transaction frame content).1
      (.absorb transaction frame) := by
  have id : (content.mark (some transaction)).id = content.id := rfl
  have marks := Database.spares_setFrame sound held id rfl
  have noted :=
    marks.trans (Database.spares_noteAccess marks.sound transaction content.id .write)
  unfold Database.absorb
  dsimp only
  split
  · rename_i pool installs
    have takes := Pool.takes_install noted.sound issued Std.ExtTreeMap.getElem?_insert_self installs
    refine ⟨noted.catalog, noted.keeps.trans takes.keeps, noted.retains.trans takes.retains,
      takes.sound, ?_, fun page bytes onDisk => .inl (noted.images page bytes onDisk)⟩
    intro page own old found dirty
    by_cases same : page = content.id
    · subst same
      exact .replaced takes.found rfl
    · obtain ⟨changed, kept, still⟩ := noted.unsaved page own old found dirty
      exact .unsaved (takes.stays same kept still) still
  · exact tends_of_spares noted _

end

end Service

namespace Engine

structure Tends (engine next : Engine) : Prop where
  spares : engine.database.Spares next.database
  registered : ∀ (ticket : Nat) task, next.tasks[ticket]? = some task →
    engine.tasks[ticket]? = some task ∨ task.Registered engine.database.catalog

section

variable {engine : Engine} {numbering : String → TableId}

private theorem tends_setDatabase {next : Database} (spares : engine.database.Spares next) :
    engine.Tends (engine.setDatabase next) :=
  ⟨spares, fun _ _ found => .inl found⟩

private theorem tends_note (ticket : Nat) {next : Database × Progress}
    (careful : engine.database.Careful next) :
    engine.Tends (engine.note ticket next.1 next.2).1 := by
  refine ⟨?_, ?_⟩
  · rw [database_note]
    exact careful.spares
  · intro other task found
    rw [tasks_note] at found
    split at found
    · cases same : next.2 with
      | finished outcome =>
          rw [same] at found
          cases found
      | waiting left =>
          rw [same] at found
          cases found
          exact .inr (careful.registered task same)
    · exact .inl found

private theorem tends_turn (catalog : engine.database.catalog.Sound numbering)
    (sound : engine.database.pool.Sound)
    (registered : ∀ (ticket : Nat) task, engine.tasks[ticket]? = some task →
      task.Registered engine.database.catalog) (ticket : Nat) :
    engine.Tends (engine.turn ticket).1 := by
  cases found : engine.tasks[ticket]? with
  | none =>
      rw [turn_of_unused found]
      exact ⟨.refl sound, fun _ _ found => .inl found⟩
  | some task =>
      have checks : engine.database.Spares (engine.checked ticket task) :=
        Database.spares_setLocks sound _
      rw [turn_of_task found]
      cases (engine.database.pool.locks.acquire ticket task.request).2 with
      | asleep => exact tends_setDatabase checks
      | refused fault => exact tends_note ticket (checks.finished (task.fail fault))
      | granted =>
          have catalogNow : (engine.checked ticket task).catalog.Sound numbering := catalog
          have registeredNow : task.Registered (engine.checked ticket task).catalog :=
            registered ticket task found
          exact tends_note ticket
            (checks.careful (Database.careful_goes catalogNow checks.sound registeredNow))

end

end Engine

namespace Service

structure Tended (service : Service) (start : Database) (capacity : Nat) : Prop where
  catalog : service.database.catalog = start.catalog
  capacity : service.database.pool.capacity = capacity
  fits : service.database.pool.Fits
  sound : service.database.pool.Sound
  registered : ∀ (ticket : Nat) task, service.engine.tasks[ticket]? = some task →
    task.Registered service.database.catalog
  framed : ∀ (ticket : Nat) page frame rest purpose,
    service.chores[ticket]? = some (.writing page frame rest purpose) →
      frame < service.database.pool.nextFrame ∧
        ∃ content, service.database.pool.frames[frame]? = some content ∧ content.id = page

section

variable {service : Service} {action : PoolAction} {start : Database} {capacity : Nat}
  {numbering : String → TableId}

private theorem Tended.tends_plain (tended : service.Tended start capacity)
    (catalog : service.database.catalog.Sound numbering) {plain : DatabaseAction}
    (asks : service.AsksPlainly plain) :
    service.Tends (service.engine.serve plain).database (.serve (.serve plain)) ∧
      ∀ (ticket : Nat) task, (service.engine.serve plain).tasks[ticket]? = some task →
        task.Registered service.database.catalog := by
  have sound := tended.sound
  have tends {next : Engine} (tends : service.engine.Tends next) :
      service.Tends next.database (.serve (.serve plain)) ∧
        ∀ (ticket : Nat) task, next.tasks[ticket]? = some task →
          task.Registered service.database.catalog := by
    refine ⟨tends_of_spares tends.spares _, ?_⟩
    intro ticket task found
    rcases tends.registered ticket task found with before | registered
    · exact tended.registered ticket task before
    · exact registered
  cases plain with
  | perform action =>
      cases action with
      | begin ticket operation =>
          exact tends (Engine.tends_note ticket (Database.careful_begins catalog sound asks))
      | turn ticket => exact tends (Engine.tends_turn catalog sound tended.registered ticket)
      | _ => exact asks.elim
  | discard page => exact ⟨tends_discard sound page, tended.registered⟩
  | release transaction page =>
      exact tends (Engine.tends_setDatabase (Database.spares_setLocks sound _))
  | interrupt transaction =>
      exact tends (Engine.tends_setDatabase (Database.spares_setLocks sound _))
  | append file =>
      exact tends (Engine.tends_setDatabase (Database.spares_appendEmptyPage catalog sound asks))
  | _ => exact asks.elim

private theorem Tended.tends_refused (tended : service.Tended start capacity)
    (catalog : service.database.catalog.Sound numbering) {asked : ServiceAction}
    (allowed : service.Allowed (.serve asked)) (refused : ∀ plain, asked ≠ .serve plain)
    (idle : asked.chore? = none) :
    service.Tends (service.serve asked).database (.serve asked) := by
  have sound := tended.sound
  have same : service.Tends service.database (.serve asked) := tends_of_spares (.refl sound) _
  unfold serve
  cases asked with
  | serve plain => exact absurd rfl (refused plain)
  | beginRefused ticket operation refusal cause =>
      dsimp only
      cases refuses : service.engine.beginRefused? ticket operation refusal cause with
      | none => exact same
      | some answer =>
          obtain ⟨next, outcome⟩ := answer
          obtain ⟨reached, comes, rfl⟩ := beginRefused?_eq_some refuses
          have spares := Database.spares_ofOperationRefused? catalog sound
            (allowed _ rfl) comes
          refine tends_of_spares ?_ _
          change service.database.Spares (service.engine.note ticket reached _).1.database
          rw [Engine.database_note]
          exact spares
  | turnRefused ticket refusal cause =>
      dsimp only
      cases refuses : service.engine.turnRefused? ticket refusal cause with
      | none => exact same
      | some answer =>
          obtain ⟨next, outcome⟩ := answer
          obtain ⟨task, reached, found, _, comes, rfl⟩ := turnRefused?_eq_some refuses
          have checks : service.database.Spares (service.engine.checked ticket task) :=
            Database.spares_setLocks sound _
          have spares : (service.engine.checked ticket task).Spares reached :=
            Database.spares_ofTaskRefused? catalog checks.sound
              (tended.registered ticket task found) comes
          refine tends_of_spares ?_ _
          change service.database.Spares (service.engine.note ticket reached _).1.database
          rw [Engine.database_note]
          exact checks.trans spares
  | appendRefused file written =>
      exact tends_of_spares (Database.spares_appendInPart catalog sound (allowed _ rfl) written) _
  | call ticket chore => exact same
  | step _ => cases idle
  | stepRefused _ _ => cases idle

private theorem Tended.tends_chore (tended : service.Tended start capacity)
    (catalog : service.database.catalog.Sound numbering) {asked : ServiceAction} {ticket : Nat}
    (goes : asked.chore? = some ticket) :
    service.Tends (service.serve asked).database (.serve asked) := by
  have sound := tended.sound
  cases asked with
  | step stepped =>
      cases goes
      cases under : service.chores[ticket]? with
      | none =>
          have same : service.step ticket = (service, none) := by
            unfold Service.step
            rw [under]
          change service.Tends (service.step ticket).1.database _
          rw [same]
          exact tends_of_spares (.refl sound) _
      | some stage =>
          have advances := Database.advances_of_framed sound stage (by
            rintro page frame rest purpose rfl
            exact (tended.framed ticket page frame rest purpose under).2)
          change service.Tends (service.step ticket).1.database _
          rw [step_of_stage under, Service.database, engine_note]
          change service.Tends (stage.advance service.database).1 _
          generalize stage.advance service.database = came at advances
          cases advances with
          | concludes _ => exact tends_conclude sound under
          | writes held own writes _ _ => exact tends_writes catalog sound under held own writes
          | forgets transaction =>
              refine tends_of_spares ?_ _
              exact .of_pool ⟨rfl, fun fits => fits⟩ (.of_frames (Nat.le_refl _) rfl) sound
                (fun _ _ content found dirty => ⟨content, found, dirty⟩)
          | releases transaction => exact tends_of_spares (Database.spares_setLocks sound _) _
          | _ => exact tends_of_spares (.refl sound) _
  | stepRefused stepped written =>
      cases goes
      change service.Tends ((service.stepRefused? ticket written).getD service).database _
      cases refuses : service.stepRefused? ticket written with
      | none => exact tends_of_spares (.refl sound) _
      | some next =>
          obtain ⟨page, frame, rest, purpose, reached, under, tears, same⟩ :=
            stepRefused?_eq_some refuses
          obtain ⟨_, content, held, own⟩ := tended.framed ticket page frame rest purpose under
          rw [Option.getD_some, same (.ok ()), Service.database, engine_note]
          exact tends_tears catalog sound under held own tears
  | _ => cases goes

private theorem Tended.tends (tended : service.Tended start capacity)
    (catalog : service.database.catalog.Sound numbering) (allowed : service.Allowed action) :
    service.Tends (service.act action).database action ∧
      ∀ (ticket : Nat) task, (service.act action).engine.tasks[ticket]? = some task →
        task.Registered service.database.catalog := by
  have sound := tended.sound
  have idle : service.Tends service.database action := tends_of_spares (.refl sound) action
  cases action with
  | serve asked =>
      by_cases plain : ∃ plain, asked = .serve plain
      · obtain ⟨plain, rfl⟩ := plain
        exact tended.tends_plain catalog (allowed plain rfl)
      · have refused : ∀ plain, asked ≠ .serve plain := fun other same => plain ⟨other, same⟩
        constructor
        · cases goes : asked.chore? with
          | none => exact tended.tends_refused catalog allowed refused goes
          | some ticket => exact tended.tends_chore catalog goes
        · intro ticket task found
          rcases task_cases found with before | ⟨other, same, _⟩
          · exact tended.registered ticket task before
          · exact absurd same (refused other)
  | arrive content =>
      unfold act
      dsimp only
      split
      · exact ⟨idle, tended.registered⟩
      · rename_i absent
        split
        · rename_i installs
          exact ⟨tends_arrive sound (Bool.eq_false_iff.mpr absent) installs _, tended.registered⟩
        · exact ⟨idle, tended.registered⟩
  | edit frame content =>
      obtain ⟨old, held, id⟩ := Option.map_eq_some_iff.mp allowed
      exact ⟨tends_edit sound held id.symm, tended.registered⟩
  | absorb transaction frame =>
      unfold act
      dsimp only
      cases held : service.database.pool.frames[frame]? with
      | none => exact ⟨idle, tended.registered⟩
      | some content => exact ⟨tends_absorb sound allowed held transaction, tended.registered⟩

/-- An action that is no step of a chore under way leaves the chore where it is. -/
private theorem chores_act (other : ∀ asked, action ≠ .serve asked) :
    (service.act action).chores = service.chores := by
  unfold act
  cases action with
  | serve asked => exact absurd rfl (other asked)
  | arrive content =>
      dsimp only
      split
      · rfl
      · split <;> rfl
  | edit frame content => rfl
  | absorb transaction frame => dsimp only; split <;> rfl

private theorem brings_act {ticket : Nat} {stage : Stage}
    (under : (service.act action).chores[ticket]? = some stage) :
    service.chores[ticket]? = some stage ∧ (∀ asked, action ≠ .serve asked) ∨
      ∃ asked, action = .serve asked ∧ service.Brings asked ticket stage := by
  by_cases serves : ∃ asked, action = .serve asked
  · obtain ⟨asked, rfl⟩ := serves
    exact .inr ⟨asked, rfl, brings_serve under⟩
  · have other : ∀ asked, action ≠ .serve asked := fun asked same => serves ⟨asked, same⟩
    rw [chores_act other] at under
    exact .inl ⟨under, other⟩

private theorem Tended.framed_act (tended : service.Tended start capacity)
    (retains : service.database.pool.Retains (service.act action).database.pool) {ticket : Nat}
    {page : PageId} {frame : Nat} {rest : List PageId} {purpose : Purpose}
    (under : (service.act action).chores[ticket]? =
      some (.writing page frame rest purpose)) :
    frame < (service.act action).database.pool.nextFrame ∧
      ∃ content, (service.act action).database.pool.frames[frame]? = some content ∧
        content.id = page := by
  have before : frame < service.database.pool.nextFrame ∧
      ∃ content, service.database.pool.frames[frame]? = some content ∧ content.id = page := by
    rcases brings_act under with ⟨was, _⟩ | ⟨asked, _, brings⟩
    · exact tended.framed ticket page frame rest purpose was
    · cases brings with
      | stays was _ => exact tended.framed ticket page frame rest purpose was
      | begins chore _ same => cases chore <;> cases same
      | advances old _ was goesOn =>
          have advances := Database.advances_of_framed tended.sound old (by
            rintro page frame rest purpose rfl
            exact (tended.framed ticket page frame rest purpose was).2)
          generalize old.advance service.database = came at goesOn advances
          cases advances with
          | concludes _ =>
              obtain ⟨_, _, _, impossible⟩ := ends?_conclude goesOn
              cases impossible
          | finds found _ _ =>
              cases goesOn
              obtain ⟨resident, held⟩ := Pool.residentFrame?_eq_some.mp found
              obtain ⟨bound, _⟩ := tended.sound page frame resident
              exact ⟨bound, _, held, tended.sound.id_eq found⟩
          | _ => cases goesOn
  obtain ⟨bound, content, held, own⟩ := before
  obtain ⟨changed, heldNext, same⟩ := retains.frames frame content bound held
  exact ⟨Nat.lt_of_lt_of_le bound retains.issued, changed, heldNext, same.trans own⟩

theorem Tended.act (tended : service.Tended start capacity)
    (catalog : start.catalog.Sound numbering) (allowed : service.Allowed action) :
    service.Tends (service.act action).database action ∧
      (service.act action).Tended start capacity := by
  rw [← tended.catalog] at catalog
  obtain ⟨tends, registered⟩ := tended.tends catalog allowed
  refine ⟨tends, tends.catalog.trans tended.catalog, tends.keeps.capacity.trans tended.capacity,
    tends.keeps.fits tended.fits, tends.sound, ?_, ?_⟩
  · intro ticket task found
    rw [tends.catalog]
    exact registered ticket task found
  · intro ticket page frame rest purpose under
    exact tended.framed_act tends.retains under

theorem Tended.actEach (tended : service.Tended start capacity)
    (catalog : start.catalog.Sound numbering) {actions : List PoolAction}
    (allowed : service.Acting Allowed actions) :
    (service.actEach actions).Tended start capacity := by
  induction actions generalizing service with
  | nil => exact tended
  | cons action rest ih => exact ih (tended.act catalog allowed.1).2 allowed.2

/-! ### The calls of the chores -/

/-- The chore under the ticket was the last to be called there, when the service was this one. -/
structure Calls (first : Service) (history : List PoolAction) (ticket : Nat) (chore : Chore)
    (calling : Service) (during : List PoolAction) : Prop where
  reaches : ∃ before, history = before ++ .serve (.call ticket chore) :: during ∧
    first.actEach before = calling
  uncalled : ∀ other, .serve (.call ticket other) ∉ during

theorem called (first : Service) (history : List PoolAction)
    (fresh : ∀ ticket : Nat, first.chores[ticket]? = none) {ticket : Nat} {stage : Stage}
    (under : (first.actEach history).chores[ticket]? = some stage) :
    ∃ chore calling during, Calls first history ticket chore calling during ∧
      stage.Serves chore calling.database := by
  induction history using List.reverseRecOn generalizing stage with
  | nil => cases (fresh ticket).symm.trans under
  | append_singleton before action ih =>
      rw [actEach_append] at under
      change ((first.actEach before).act action).chores[ticket]? = some stage at under
      -- Whoever was under way before goes on, unless another chore is called in its place.
      have goesOn {old : Stage} (was : (first.actEach before).chores[ticket]? = some old)
          (serves : ∀ chore calling, old.Serves chore calling → stage.Serves chore calling)
          (other : ∀ chore, action ≠ .serve (.call ticket chore)) :
          ∃ chore calling during, Calls first (before ++ [action]) ticket chore calling during ∧
            stage.Serves chore calling.database := by
        obtain ⟨chore, calling, during, ⟨⟨earlier, rfl, reaches⟩, uncalled⟩, own⟩ := ih was
        refine ⟨chore, calling, during ++ [action], ⟨⟨earlier, ?_, reaches⟩, ?_⟩,
          serves chore calling.database own⟩
        · rw [List.append_assoc, List.cons_append]
        · intro another member
          rcases List.mem_append.mp member with early | last
          · exact uncalled another early
          · exact other another (List.mem_singleton.mp last).symm
      rcases brings_act under with ⟨was, apart⟩ | ⟨asked, rfl, brings⟩
      · exact goesOn was (fun _ _ serves => serves) fun chore => apart _
      · cases brings with
        | stays was _ =>
            by_cases calls : ∃ chore, asked = .call ticket chore
            · obtain ⟨chore, rfl⟩ := calls
              change ((first.actEach before).chores.insert ticket _)[ticket]? = some stage at under
              rw [Std.ExtTreeMap.getElem?_insert_self] at under
              cases under
              exact ⟨chore, first.actEach before, [], ⟨⟨before, rfl, rfl⟩, nofun⟩,
                Stage.serves_stage _ _⟩
            · refine goesOn was (fun _ _ serves => serves) ?_
              rintro chore ⟨rfl⟩
              exact calls ⟨chore, rfl⟩
        | begins chore calls same =>
            subst calls same
            exact ⟨chore, first.actEach before, [], ⟨⟨before, rfl, rfl⟩, nofun⟩,
              Stage.serves_stage _ _⟩
        | advances old steps was advances =>
            subst steps
            exact goesOn was (fun _ _ serves => serves.advance advances) nofun

end

/-! ### Pages that the pool is emptied of -/

def Past (service : Service) (ticket : Nat) (page : PageId) : Prop :=
  ∃ stage ∈ service.chores[ticket]?, ¬stage.Awaits page

instance (service : Service) (ticket : Nat) (page : PageId) : Decidable (service.Past ticket page) :=
  inferInstanceAs (Decidable (∃ stage ∈ service.chores[ticket]?, ¬stage.Awaits page))

/-- The page is in the pool with changes after the action, in another frame or with other contents
than before. -/
def Alters (service : Service) (page : PageId) (action : PoolAction) : Prop :=
  ∃ entry ∈ (service.act action).database.pool.residentFrame? page,
    entry.2.isDirty = true ∧ service.database.pool.residentFrame? page ≠ some entry

instance (service : Service) (page : PageId) (action : PoolAction) :
    Decidable (service.Alters page action) :=
  inferInstanceAs (Decidable (∃ entry ∈ (service.act action).database.pool.residentFrame? page,
    entry.2.isDirty = true ∧ service.database.pool.residentFrame? page ≠ some entry))

/-- Nobody changes the page once the chore has come to it. -/
def RestsBehind (ticket : Nat) (page : PageId) (service : Service) (action : PoolAction) : Prop :=
  service.Past ticket page → ¬service.Alters page action

instance (ticket : Nat) (page : PageId) (service : Service) (action : PoolAction) :
    Decidable (RestsBehind ticket page service action) :=
  inferInstanceAs (Decidable (_ → ¬_))

section

variable {service : Service} {action : PoolAction} {start : Database} {capacity : Nat}
  {numbering : String → TableId} {page : PageId} {ticket : Nat}

private theorem saved_of_unaltered {database next : Database}
    (unaltered : ∀ entry ∈ next.pool.residentFrame? page,
      entry.2.isDirty = true → database.pool.residentFrame? page = some entry)
    (saved : database.pool.unsaved? page = none) : next.pool.unsaved? page = none := by
  refine Option.eq_none_iff_forall_ne_some.mpr fun content unsaved => ?_
  obtain ⟨⟨frame, found⟩, dirty⟩ := Pool.unsaved?_eq_some.mp unsaved
  have same := unaltered (frame, content) found dirty
  cases saved.symm.trans (Pool.unsaved?_eq_some.mpr ⟨⟨frame, same⟩, dirty⟩)

/-- A chore that saves the page before it drops it goes on to do so if nobody changes the page once
the chore has come to it. -/
private theorem saves_of_unaltered {database next : Database} {stage : Stage}
    (saves : stage.Saves database page none)
    (unaltered : ¬stage.Awaits page → ∀ entry ∈ next.pool.residentFrame? page,
      entry.2.isDirty = true → database.pool.residentFrame? page = some entry) :
    stage.Saves next page none := by
  cases stage with
  | visiting pages purpose =>
      intro clears
      by_cases later : page ∈ pages
      · exact .inr later
      · exact .inl (saved_of_unaltered (unaltered later) ((saves clears).resolve_right later))
  | writing written frame rest purpose =>
      intro clears
      by_cases later : page ∈ rest
      · exact .inr (.inl later)
      · rcases saves clears with saved | listed | ⟨same, resident⟩
        · exact .inl (saved_of_unaltered (unaltered later) saved)
        · exact absurd listed later
        · cases unsaved : next.pool.unsaved? page with
          | none => exact .inl rfl
          | some content =>
              obtain ⟨⟨held, found⟩, dirty⟩ := Pool.unsaved?_eq_some.mp unsaved
              have before := unaltered later (held, content) found dirty
              cases resident.symm.trans (Pool.residentFrame?_eq_some.mp before).1
              exact .inr (.inr ⟨same, (Pool.residentFrame?_eq_some.mp found).1⟩)
  | forgetting _ => exact nofun
  | releasing _ => exact nofun

private theorem Tended.saves_advance (tended : service.Tended start capacity)
    {before stage : Stage} (under : service.chores[ticket]? = some before)
    (goesOn : (before.advance service.database).2 = .onwards stage)
    (rests : RestsBehind ticket page service (.serve (.step ticket)))
    (saves : before.Saves service.database page none) :
    stage.Saves (service.act (.serve (.step ticket))).database page none := by
  have comes : (service.act (.serve (.step ticket))).database =
      (before.advance service.database).1 := by
    change (service.step ticket).1.database = _
    rw [step_of_stage under, Service.database, engine_note]
    rfl
  have unaltered (past : ¬before.Awaits page) (entry : Nat × Page)
      (found : entry ∈ (service.act (.serve (.step ticket))).database.pool.residentFrame? page)
      (dirty : entry.2.isDirty = true) :
      service.database.pool.residentFrame? page = some entry := by
    by_contra different
    exact rests ⟨before, under, past⟩ ⟨entry, found, dirty, different⟩
  have advances := Database.advances_of_framed tended.sound before (by
    rintro page frame rest purpose rfl
    exact (tended.framed ticket page frame rest purpose under).2)
  have kept := saves_of_unaltered saves unaltered
  generalize before.advance service.database = result at goesOn comes advances
  cases advances with
  | concludes purpose =>
      obtain ⟨transaction, pages, rfl, rfl⟩ := ends?_conclude goesOn
      exact fun cleared => absurd cleared (by rintro ⟨⟩)
  | skips absent rest purpose =>
      cases goesOn
      intro clears
      rcases kept clears with saved | member
      · exact .inl saved
      · rcases List.mem_cons.mp member with rfl | later
        · rw [comes]
          exact .inl (Pool.unsaved?_of_vacant absent)
        · exact .inr later
  | finds found rest purpose =>
      cases goesOn
      intro clears
      rcases kept clears with saved | member
      · exact .inl saved
      · rcases List.mem_cons.mp member with rfl | later
        · rw [comes]
          exact .inr (.inr ⟨rfl, (Pool.residentFrame?_eq_some.mp found).1⟩)
        · exact .inr (.inl later)
  | writes held own writes rest purpose =>
      cases goesOn
      intro clears
      by_cases later : page ∈ rest
      · exact .inr later
      · rcases saves clears with saved | listed | ⟨rfl, resident⟩
        · exact .inl (saved_of_unaltered (unaltered later) saved)
        · exact absurd listed later
        · rw [comes]
          exact .inl (writes.saved held resident)
  | forgets transaction =>
      cases goesOn
      exact fun cleared => absurd cleared (by rintro ⟨⟩)
  | fails _ _ _ _ _ => cases goesOn
  | releases _ => cases goesOn

private theorem Tended.saves (tended : service.Tended start capacity)
    (rests : RestsBehind ticket page service action)
    (uncalled : ∀ chore, action ≠ .serve (.call ticket chore))
    (saves : ∀ stage, service.chores[ticket]? = some stage →
      stage.Saves service.database page none) {stage : Stage}
    (under : (service.act action).chores[ticket]? = some stage) :
    stage.Saves (service.act action).database page none := by
  have goesOn (was : service.chores[ticket]? = some stage) :
      stage.Saves (service.act action).database page none := by
    refine saves_of_unaltered (saves stage was) ?_
    intro past entry found dirty
    by_contra different
    exact rests ⟨stage, was, past⟩ ⟨entry, found, dirty, different⟩
  rcases brings_act under with ⟨was, _⟩ | ⟨asked, rfl, brings⟩
  · exact goesOn was
  · cases brings with
    | stays was _ => exact goesOn was
    | begins chore calls _ => exact absurd (congrArg PoolAction.serve calls) (uncalled chore)
    | advances before steps was comes =>
        subst steps
        exact tended.saves_advance was comes rests (saves before was)

end

end Service

end RowStore
