import RowStore.Proofs.Database.TaskMoves
import RowStore.Proofs.Engine.Isolation

/-!
Histories: everything that can be asked of a database, in any order. Operations take their turns,
transactions end, pages are written back, dropped, released and edited through the frames that were
handed out, and tables are made, opened and forgotten between them.
-/

set_option autoImplicit false

namespace RowStore

inductive DatabaseAction where
  /-- An operation begins or takes its turn, or a transaction ends. -/
  | perform (action : EngineAction)
  /-- The disk refuses the page after so many that a commit writes. -/
  | commitRefused (transaction : TransactionId) (count : Nat)
  /-- These pages are written back one after another, up to the first that fails. -/
  | flush (pages : List PageId)
  | flushAll
  | discard (page : PageId)
  | release (transaction : TransactionId) (page : PageId)
  | interrupt (transaction : TransactionId)
  /-- Whoever has a frame changes what it holds. -/
  | edit (frame : Nat) (call : PageEdit)
  | append (file : TableFile)
  | createTable (path : String) (schema : Schema) (name : String)
  | openTable (path : String) (schema : Schema) (name : String)
  | openFile (path : String) (opening : Volume.Opening) (schema : Schema) (pageSize : Nat)
  | register (file : TableFile) (name : String)
  | clearCatalog
  deriving DecidableEq, Repr

namespace DatabaseAction

def opens? : DatabaseAction → Option (String × Volume.Opening)
  | .createTable path _ _ => some (path, .truncating)
  | .openTable path _ _ => some (path, .keeping)
  | .openFile path opening _ _ => some (path, opening)
  | _ => none

def recatalogues : DatabaseAction → Bool
  | .createTable _ _ _ => true
  | .openTable _ _ _ => true
  | .register _ _ => true
  | .clearCatalog => true
  | _ => false

end DatabaseAction

namespace Engine

def serve (engine : Engine) : DatabaseAction → Engine
  | .perform action => engine.perform action
  | .commitRefused transaction count =>
      engine.setDatabase
        (engine.database.flushEach ((engine.database.pool.writtenBy transaction).take count)).1
  | .flush pages => engine.setDatabase (engine.database.flushEach pages).1
  | .flushAll => engine.setDatabase engine.database.flushAll.1
  | .discard page => engine.setDatabase (engine.database.discard page)
  | .release transaction page => engine.setDatabase (engine.database.release transaction page)
  | .interrupt transaction => engine.setDatabase (engine.database.interrupt transaction)
  | .edit frame call =>
      match engine.database.pool.frames[frame]? with
      | some content => engine.setDatabase (engine.database.setFrame frame (content.edit call))
      | none => engine
  | .append file => engine.setDatabase (engine.database.appendEmptyPage file).1
  | .createTable path schema name =>
      engine.setDatabase (engine.database.createTable path schema name).1
  | .openTable path schema name =>
      engine.setDatabase (engine.database.openTable path schema name).1
  | .openFile path opening schema pageSize =>
      match engine.database.openFile path opening schema pageSize with
      | .ok (opened, _) => engine.setDatabase opened
      | .error _ => engine
  | .register file name =>
      match engine.database.register file name with
      | .ok registered => engine.setDatabase registered
      | .error _ => engine
  | .clearCatalog => engine.setDatabase engine.database.clearCatalog

def serveEach (engine : Engine) (actions : List DatabaseAction) : Engine :=
  actions.foldl serve engine

def Along (engine : Engine) (allowed : Engine → DatabaseAction → Prop) :
    List DatabaseAction → Prop
  | [] => True
  | action :: rest => allowed engine action ∧ (engine.serve action).Along allowed rest

def decideAlong (engine : Engine) (allowed : Engine → DatabaseAction → Prop)
    [∀ engine action, Decidable (allowed engine action)] :
    (actions : List DatabaseAction) → Decidable (engine.Along allowed actions)
  | [] => isTrue trivial
  | action :: rest =>
      have := (engine.serve action).decideAlong allowed rest
      inferInstanceAs (Decidable (_ ∧ _))

instance (engine : Engine) (allowed : Engine → DatabaseAction → Prop)
    [∀ engine action, Decidable (allowed engine action)] (actions : List DatabaseAction) :
    Decidable (engine.Along allowed actions) :=
  engine.decideAlong allowed actions

theorem Along.keeps {engine : Engine} {allowed : Engine → DatabaseAction → Prop}
    {actions : List DatabaseAction} (kept : Engine → Prop) (along : engine.Along allowed actions)
    (step : ∀ engine action, kept engine → allowed engine action → kept (engine.serve action))
    (start : kept engine) : kept (engine.serveEach actions) := by
  induction actions generalizing engine with
  | nil => exact start
  | cons action rest ih => exact ih along.2 (step engine action start along.1)

/-! ### What may be asked -/

/-- Operations begin under unused tickets, rows to be stored have the field types of their schema,
and a file to be registered has the number of its path. -/
def Proper (engine : Engine) : DatabaseAction → Prop
  | .perform (.begin ticket operation) => engine.tasks[ticket]? = none ∧ operation.Plain
  | .edit _ call => call.Typed
  | .register file _ => engine.database.numbering file.path = file.id
  | _ => True

instance (engine : Engine) : (action : DatabaseAction) → Decidable (engine.Proper action)
  | .perform (.begin ticket operation) =>
      inferInstanceAs (Decidable (engine.tasks[ticket]? = none ∧ operation.Plain))
  | .edit _ call => inferInstanceAs (Decidable call.Typed)
  | .register file _ =>
      inferInstanceAs (Decidable (engine.database.numbering file.path = file.id))
  | .perform (.turn _) | .perform (.commit _) | .perform (.abort _) | .commitRefused _ _
  | .flush _ | .flushAll | .discard _ | .release _ _ | .interrupt _ | .append _
  | .createTable _ _ _ | .openTable _ _ _ | .openFile _ _ _ _ | .clearCatalog => isTrue trivial

/-- The action ends the transaction. A commit that fails does not. -/
def Ends (engine : Engine) (transaction : TransactionId) : DatabaseAction → Prop
  | .perform (.commit other) =>
      other = transaction ∧ (engine.database.commit other).2 = .ok ()
  | .perform (.abort other) => other = transaction
  | _ => False

instance (engine : Engine) (transaction : TransactionId) :
    (action : DatabaseAction) → Decidable (engine.Ends transaction action)
  | .perform (.commit other) =>
      inferInstanceAs (Decidable (other = transaction ∧ (engine.database.commit other).2 = .ok ()))
  | .perform (.abort other) => inferInstanceAs (Decidable (other = transaction))
  | .perform (.turn _) | .perform (.begin _ _) | .commitRefused _ _ | .flush _ | .flushAll
  | .discard _ | .release _ _ | .interrupt _ | .edit _ _ | .append _ | .createTable _ _ _
  | .openTable _ _ _ | .openFile _ _ _ _ | .register _ _ | .clearCatalog => isFalse id

/-- The action empties the pool. Writing back all pages does not if one of them fails. -/
def Clears (engine : Engine) : DatabaseAction → Prop
  | .flushAll => engine.database.flushAll.2 = .ok ()
  | _ => False

instance (engine : Engine) : (action : DatabaseAction) → Decidable (engine.Clears action)
  | .flushAll => inferInstanceAs (Decidable (engine.database.flushAll.2 = .ok ()))
  | .perform _ | .commitRefused _ _ | .flush _ | .discard _ | .release _ _ | .interrupt _
  | .edit _ _ | .append _ | .createTable _ _ _ | .openTable _ _ _ | .openFile _ _ _ _
  | .register _ _ | .clearCatalog => isFalse id

def changes (engine : Engine) : DatabaseAction → List Change
  | .perform (.turn ticket) =>
      match engine.tasks[ticket]?, (engine.turn ticket).2 with
      | some task, .finished outcome => (task.change? outcome).toList
      | _, _ => []
  | .edit frame call =>
      match engine.database.pool.frames[frame]? with
      | some content => content.gains call
      | none => []
  | _ => []

/-! ### Actions as rows of moves -/

inductive Makes (engine : Engine) : DatabaseAction → Database → Move → Prop where
  | begin {ticket : Nat} {operation : Operation} {current : Database} {file : TableFile}
      (own : operation.file? = some file ∨
        ∃ table, engine.database.catalog.file table = .ok file) :
      Makes engine (.perform (.begin ticket operation)) current (.grow file)
  | acquire {ticket : Nat} {task : Task} {current : Database}
      (found : engine.tasks[ticket]? = some task) :
      Makes engine (.perform (.turn ticket)) current (.lock (.acquire ticket task.request))
  | turn {ticket : Nat} {task : Task} {progress : Progress} {current : Database} {move : Move}
      (found : engine.tasks[ticket]? = some task)
      (changes : ∀ change ∈ task.changes progress,
        change ∈ engine.changes (.perform (.turn ticket)))
      (makes : task.Makes progress current move) :
      Makes engine (.perform (.turn ticket)) current move
  | commit {transaction : TransactionId} {current : Database} {page : PageId}
      (member : page ∈ engine.database.pool.writtenBy transaction) :
      Makes engine (.perform (.commit transaction)) current (.save page)
  | ending {action : DatabaseAction} {transaction : TransactionId} {current : Database}
      {move : Move} (ends : engine.Ends transaction action)
      (ending : engine.database.Ending transaction current move) :
      Makes engine action current move
  | refused {transaction : TransactionId} {count : Nat} {current : Database} {page : PageId}
      (member : page ∈ engine.database.pool.writtenBy transaction) :
      Makes engine (.commitRefused transaction count) current (.save page)
  | flush {pages : List PageId} {current : Database} {page : PageId} (member : page ∈ pages) :
      Makes engine (.flush pages) current (.save page)
  | flushAll {current : Database} {page : PageId} : Makes engine .flushAll current (.save page)
  | clear {action : DatabaseAction} {current : Database} (clears : engine.Clears action) :
      Makes engine action current .clear
  | discard {page : PageId} {current : Database} :
      Makes engine (.discard page) current (.drop page)
  | release {transaction : TransactionId} {page : PageId} {current : Database} :
      Makes engine (.release transaction page) current (.lock (.release transaction page))
  | interrupt {transaction : TransactionId} {current : Database} :
      Makes engine (.interrupt transaction) current (.lock (.interrupt transaction))
  | edit {frame : Nat} {call : PageEdit} {content : Page}
      (held : engine.database.pool.frames[frame]? = some content) :
      Makes engine (.edit frame call) engine.database (.edit frame [call])
  | append {file : TableFile} {current : Database} :
      Makes engine (.append file) current (.grow file)
  | reopen {action : DatabaseAction} {path : String} {opening : Volume.Opening}
      {current : Database} (opens : action.opens? = some (path, opening)) :
      Makes engine action current (.reopen path opening)
  | recatalogue {action : DatabaseAction} {catalog : Catalog} {current : Database}
      (recatalogues : action.recatalogues = true) :
      Makes engine action current (.recatalogue catalog)

/-- What holds between any two actions: every request that sleeps is that of a task, and every row
under way has the field types of its schema. -/
structure Grounded (engine : Engine) : Prop where
  steady : engine.database.Steady
  asleep : ∀ (ticket : Nat) (sleeper : Sleeper),
    engine.database.pool.locks.sleepers[ticket]? = some sleeper →
      ∃ task, engine.tasks[ticket]? = some task ∧ task.request = sleeper.request
  plain : ∀ (ticket : Nat) task, engine.tasks[ticket]? = some task → task.Plain

end Engine

namespace LockTable

theorem sleeper_of_perform {table : LockTable} {action : LockAction}
    (unasked : ∀ ticket request, action ≠ .acquire ticket request) {ticket : Nat}
    {sleeper : Sleeper} (found : (table.perform action).sleepers[ticket]? = some sleeper) :
    ∃ before : Sleeper, table.sleepers[ticket]? = some before ∧
      before.request = sleeper.request := by
  cases action with
  | acquire ticket request => exact absurd rfl (unasked ticket request)
  | release transaction page =>
      exact @sleeper_of_foldl_release table transaction [page] ticket sleeper found
  | releaseAll transaction => exact sleeper_of_foldl_release found
  | interrupt transaction =>
      unfold perform interrupt at found
      dsimp only at found
      split at found
      · obtain ⟨before, foundBefore, request, _⟩ := sleeper_of_wake found
        exact ⟨before, foundBefore, request⟩
      · exact ⟨sleeper, found, rfl⟩

end LockTable

namespace Database

section

variable {database : Database} {transaction : TransactionId}

/-- A commit writes the pages that the transaction means to write. If that went well they have no
changes any more, and the transaction ends. -/
theorem path_commit (steady : database.Steady) (transaction : TransactionId) :
    ∃ flushed, Path (fun _ => Move.Saves (database.pool.writtenBy transaction)) database
        flushed ∧
      ((∃ fault, database.commit transaction = (flushed, .error fault)) ∨
        database.commit transaction = (flushed.dismiss transaction, .ok ()) ∧
          ∀ page ∈ database.pool.writtenBy transaction, flushed.pool.unsaved? page = none) := by
  obtain ⟨path, saved⟩ := path_flushEach steady (database.pool.writtenBy transaction)
  unfold commit flushTransaction
  cases flushes : database.flushEach (database.pool.writtenBy transaction) with
  | mk flushed result =>
      rw [flushes] at path saved
      refine ⟨flushed, path, ?_⟩
      cases result with
      | error fault => exact .inl ⟨fault, rfl⟩
      | ok _ => exact .inr ⟨rfl, saved rfl⟩

theorem path_flushAll (steady : database.Steady) :
    ∃ flushed, Path (fun _ => Move.Saves database.pool.resident.keys) database flushed ∧
      ((∃ fault, database.flushAll = (flushed, .error fault)) ∨
        database.flushAll = ({ flushed with pool := flushed.pool.discardAll }, .ok ()) ∧
          ∀ page, flushed.pool.unsaved? page = none) := by
  obtain ⟨path, saved⟩ := path_flushEach steady database.pool.resident.keys
  unfold flushAll
  cases flushes : database.flushEach database.pool.resident.keys with
  | mk flushed result =>
      rw [flushes] at path saved
      refine ⟨flushed, path, ?_⟩
      cases result with
      | error fault => exact .inl ⟨fault, rfl⟩
      | ok _ =>
          refine .inr ⟨rfl, ?_⟩
          intro page
          by_cases member : page ∈ database.pool.resident.keys
          · exact saved rfl page member
          · refine saved_of_path path steady (Pool.unsaved?_of_absent ?_)
            cases found : database.pool.residentFrame? page with
            | none => rfl
            | some entry =>
                rw [Std.ExtTreeMap.mem_keys, Std.ExtTreeMap.mem_iff_contains] at member
                exact absurd (Pool.isCached_of_residentFrame? found) member

theorem eq_of_saves {last : Database} {pages : List PageId}
    (path : Path (fun _ => Move.Saves pages) database last) :
    last.pool.written = database.pool.written ∧ last.pool.locks = database.pool.locks := by
  induction path with
  | here _ => exact ⟨rfl, rfl⟩
  | on moves saves _ ih =>
      cases saves
      cases moves
      exact ih

end

end Database

namespace Engine

theorem grounded_new {start : Database} (setUp : start.SetUp) : (new start).Grounded := by
  obtain ⟨capacity, preference, pool⟩ := setUp.pool
  refine ⟨⟨setUp.sound, ?_, ?_, ?_⟩, ?_, ?_⟩
  · rw [Engine.new, pool]
    exact LockTable.isExclusive_empty
  · rw [Engine.new, pool]
    exact Pool.sound_new capacity preference
  · intro frame content held
    simp [Engine.new, pool, Pool.new] at held
  · intro ticket sleeper found
    simp [Engine.new, pool, Pool.new, LockTable.empty] at found
  · intro ticket task found
    simp [Engine.new] at found

section

variable {engine : Engine}

theorem Grounded.awake_of_unused (grounded : engine.Grounded) {ticket : Nat}
    (unused : engine.tasks[ticket]? = none) :
    engine.database.pool.locks.sleepers[ticket]? = none := by
  cases sleeps : engine.database.pool.locks.sleepers[ticket]? with
  | none => rfl
  | some sleeper =>
      obtain ⟨task, found, _⟩ := grounded.asleep ticket sleeper sleeps
      cases unused.symm.trans found

private theorem Grounded.setDatabase (grounded : engine.Grounded) {action : DatabaseAction}
    (idle : ∀ ticket, action ≠ .perform (.turn ticket)) {next : Database}
    (path : Path (engine.Makes action) engine.database next) :
    (engine.setDatabase next).Grounded := by
  refine ⟨path.steady grounded.steady, ?_, grounded.plain⟩
  refine path.keeps (fun database => ∀ (ticket : Nat) (sleeper : Sleeper),
    database.pool.locks.sleepers[ticket]? = some sleeper →
      ∃ task, engine.tasks[ticket]? = some task ∧ task.request = sleeper.request)
    grounded.steady ?_ grounded.asleep
  intro database next move _ asleep makes moves ticket sleeper found
  have locked (locking : LockAction) (same : move = .lock locking) :
      ∀ ticket request, locking ≠ .acquire ticket request := by
    subst same
    cases makes with
    | acquire _ => exact absurd rfl (idle _)
    | turn _ _ _ => exact absurd rfl (idle _)
    | ending _ ending =>
        cases ending
        nofun
    | release => nofun
    | interrupt => nofun
  cases moves with
  | lock locking =>
      obtain ⟨before, foundBefore, request⟩ :=
        LockTable.sleeper_of_perform (locked locking rfl) found
      obtain ⟨task, own, same⟩ := asleep ticket before foundBefore
      exact ⟨task, own, same.trans request⟩
  | _ => exact asleep ticket sleeper found

theorem Grounded.note (grounded : engine.Grounded) {ticket : Nat} {database : Database}
    {progress : Progress} (steady : database.Steady)
    (plain : ∀ task, progress = .waiting task → task.Plain)
    (awake : database.pool.locks.sleepers[ticket]? = none)
    (others : ∀ other, other ≠ ticket → database.pool.locks.sleepers[other]? =
      engine.database.pool.locks.sleepers[other]?) :
    (engine.note ticket database progress).1.Grounded := by
  constructor
  · rw [database_note]
    exact steady
  · intro other sleeper found
    rw [database_note] at found
    by_cases same : other = ticket
    · rw [same, awake] at found
      cases found
    · rw [others other same] at found
      rw [tasks_note, if_neg same]
      exact grounded.asleep other sleeper found
  · intro other task found
    rw [tasks_note] at found
    split at found
    · exact plain task (Progress.eq_waiting found)
    · exact grounded.plain other task found

private theorem Grounded.begin (grounded : engine.Grounded) {ticket : Nat} {operation : Operation}
    (unused : engine.tasks[ticket]? = none) (plain : operation.Plain) :
    Path (engine.Makes (.perform (.begin ticket operation))) engine.database
        (engine.begin ticket operation).1.database ∧
      (engine.begin ticket operation).1.Grounded := by
  obtain ⟨path, goesOn⟩ := Database.starts_ofOperation engine.database plain
  have locks : (Progress.ofOperation engine.database operation).1.pool.locks =
      engine.database.pool.locks := by
    refine path.keeps (fun database => database.pool.locks = engine.database.pool.locks)
      grounded.steady ?_ rfl
    intro database next move _ same grows moves
    obtain ⟨file, rfl, _⟩ := grows
    exact moves.locks.trans same
  unfold Engine.begin
  dsimp only
  constructor
  · rw [database_note]
    apply path.mono
    intro _ _ grows
    obtain ⟨file, rfl, own⟩ := grows
    exact .begin own
  · apply grounded.note (path.steady grounded.steady)
    · exact fun task waits => (goesOn task waits).1
    · rw [locks]
      exact grounded.awake_of_unused unused
    · intro other _
      rw [locks]

theorem Grounded.answers (grounded : engine.Grounded) {ticket : Nat} {task : Task}
    (found : engine.tasks[ticket]? = some task) :
    engine.database.pool.locks.Answers (engine.checked ticket task).pool.locks ticket task.request
      (engine.database.pool.locks.acquire ticket task.request).2 := by
  apply LockTable.answers_acquire
  intro sleeper sleeps
  obtain ⟨other, foundOther, request⟩ := grounded.asleep ticket sleeper sleeps
  rw [found] at foundOther
  cases foundOther
  exact request.symm

theorem Grounded.turnsTo (grounded : engine.Grounded) {ticket : Nat} {task : Task}
    (found : engine.tasks[ticket]? = some task) : engine.TurnsTo ticket task :=
  turnsTo_of_answers found (grounded.answers found)

theorem Grounded.checked (grounded : engine.Grounded) (ticket : Nat) (task : Task) :
    (engine.checked ticket task).Steady :=
  (Database.Moves.lock (.acquire ticket task.request)).steady grounded.steady

theorem Grounded.works (grounded : engine.Grounded) {ticket : Nat} {task : Task}
    (found : engine.tasks[ticket]? = some task)
    (permits : (engine.checked ticket task).pool.locks.Permits task.request) :
    (engine.checked ticket task).Works task
      (Progress.ofTask (engine.checked ticket task) task) :=
  Database.works_ofTask (grounded.checked ticket task) (grounded.plain ticket task found) permits

theorem changes_turn {ticket : Nat} {task : Task} (found : engine.tasks[ticket]? = some task)
    {database : Database} {progress : Progress}
    (comes : engine.turn ticket = engine.note ticket database progress) :
    engine.changes (.perform (.turn ticket)) = task.changes progress := by
  unfold changes
  dsimp only
  rw [found, comes]
  cases progress <;> rfl

private theorem Grounded.turn (grounded : engine.Grounded) (ticket : Nat) :
    Path (engine.Makes (.perform (.turn ticket))) engine.database
        (engine.turn ticket).1.database ∧
      (engine.turn ticket).1.Grounded := by
  cases found : engine.tasks[ticket]? with
  | none =>
      rw [turn_of_unused found]
      exact ⟨.here _, grounded⟩
  | some task =>
      have locking : Path (engine.Makes (.perform (.turn ticket))) engine.database
          (engine.checked ticket task) :=
        .single (.lock (.acquire ticket task.request)) (.acquire found)
      have steady := grounded.checked ticket task
      have others := (grounded.answers found).others
      cases grounded.turnsTo found with
      | asleep comes still =>
          rw [comes]
          refine ⟨locking, steady, ?_, grounded.plain⟩
          intro other sleeper sleeps
          by_cases same : other = ticket
          · rw [same] at sleeps ⊢
            exact ⟨task, found, still sleeper sleeps⟩
          · exact grounded.asleep other sleeper ((others other same).symm.trans sleeps)
      | refused fault comes awake =>
          rw [comes]
          refine ⟨?_, grounded.note steady ?_ awake others⟩
          · rw [database_note]
            exact locking
          · intro rest impossible
            cases impossible
      | granted comes awake permits =>
          have works := grounded.works found permits
          have locks := Task.Makes.locks works.path
          have changes := changes_turn found comes
          rw [comes]
          rw [← locks] at awake others
          refine ⟨?_, grounded.note (works.path.steady steady) ?_ awake others⟩
          · rw [database_note]
            apply locking.trans (works.path.mono _)
            intro database move makes
            refine .turn found ?_ makes
            intro change member
            rw [changes]
            exact member
          · exact fun rest waits => (works.goesOn rest waits).1

private theorem path_adopt (action : DatabaseAction) (recatalogues : action.recatalogues = true)
    {database : Database} (sound : database.catalog.Sound database.numbering) {file : TableFile}
    (numbered : database.numbering file.path = file.id) (name : String) :
    Path (engine.Makes action) database (database.adopt file name).1 := by
  unfold Database.adopt
  split
  · rename_i registers
    obtain ⟨catalog, added, rfl⟩ := Database.register_cases registers
    exact .single (.recatalogue (sound.register numbered added)) (.recatalogue recatalogues)
  · exact .here _

private theorem path_openFile {action : DatabaseAction} {database opened : Database}
    {path : String} {opening : Volume.Opening} (opens : action.opens? = some (path, opening))
    {schema : Schema} {pageSize : Nat} {file : TableFile}
    (opensFile : database.openFile path opening schema pageSize = .ok (opened, file)) :
    Path (engine.Makes action) database opened ∧ opened.catalog = database.catalog ∧
      opened.numbering = database.numbering ∧ database.numbering file.path = file.id := by
  obtain ⟨volume, _, opensVolume, rfl, rfl⟩ := Database.openFile_cases opensFile
  exact ⟨.single (.reopen opensVolume) (.reopen opens), rfl, rfl, rfl⟩

private theorem path_opened {action : DatabaseAction} (recatalogues : action.recatalogues = true)
    {database opened : Database} (sound : database.catalog.Sound database.numbering)
    {path : String} {opening : Volume.Opening} (opens : action.opens? = some (path, opening))
    {schema : Schema} {pageSize : Nat} {file : TableFile}
    (opensFile : database.openFile path opening schema pageSize = .ok (opened, file))
    (name : String) : Path (engine.Makes action) database (opened.adopt file name).1 := by
  obtain ⟨start, catalog, numbering, numbered⟩ := path_openFile opens opensFile
  rw [← catalog, ← numbering] at sound
  rw [← numbering] at numbered
  exact start.trans (path_adopt action recatalogues sound numbered name)

private theorem Grounded.moves_commit (grounded : engine.Grounded)
    (transaction : TransactionId) :
    Path (engine.Makes (.perform (.commit transaction))) engine.database
      (engine.database.commit transaction).1 := by
  obtain ⟨flushed, path, ⟨fault, fails⟩ | ⟨succeeds, _⟩⟩ :=
    Database.path_commit grounded.steady transaction
  · rw [fails]
    exact path.saves fun _ _ member => .commit member
  · have ends : engine.Ends transaction (.perform (.commit transaction)) :=
      ⟨rfl, by rw [succeeds]⟩
    obtain ⟨written, locks⟩ := Database.eq_of_saves path
    rw [succeeds]
    apply (path.saves fun _ _ member => .commit member).trans
      ((flushed.path_dismiss transaction).mono _)
    intro current move ending
    refine .ending ends ?_
    cases ending with
    | drop member =>
        unfold Pool.writtenBy at member
        rw [written] at member
        exact .drop member
    | forget => exact .forget
    | releaseAll forgotten same => exact .releaseAll forgotten (same.trans locks)

private theorem Grounded.moves_flushAll (grounded : engine.Grounded) :
    Path (engine.Makes .flushAll) engine.database engine.database.flushAll.1 := by
  obtain ⟨flushed, path, ⟨fault, fails⟩ | ⟨succeeds, saved⟩⟩ :=
    Database.path_flushAll grounded.steady
  · rw [fails]
    exact path.saves fun _ _ _ => .flushAll
  · have clears : engine.Clears .flushAll := congrArg Prod.snd succeeds
    rw [succeeds]
    exact (path.saves fun _ _ _ => .flushAll).trans (.single (.clear saved) (.clear clears))

/-- Every action that leaves the operations under way as they are is a row of moves. -/
private theorem Grounded.path_idle (grounded : engine.Grounded) {action : DatabaseAction}
    (proper : engine.Proper action)
    (idle : ∀ (ticket : Nat), action ≠ .perform (.turn ticket) ∧
      ∀ operation, action ≠ .perform (.begin ticket operation)) :
    ∃ next, engine.serve action = engine.setDatabase next ∧
      Path (engine.Makes action) engine.database next := by
  have steady := grounded.steady
  have unchanged : Path (engine.Makes action) engine.database engine.database := .here _
  cases action with
  | perform action =>
      cases action with
      | begin ticket operation => exact absurd rfl ((idle ticket).2 operation)
      | turn ticket => exact absurd rfl (idle ticket).1
      | commit transaction =>
          exact ⟨_, rfl, grounded.moves_commit transaction⟩
      | abort transaction =>
          refine ⟨_, rfl, (engine.database.path_dismiss transaction).mono ?_⟩
          intro current move ending
          have ends : engine.Ends transaction (.perform (.abort transaction)) := rfl
          exact .ending ends ending
  | commitRefused transaction count =>
      exact ⟨_, rfl, (Database.path_flushEach steady _).1.saves fun _ _ member =>
        .refused (List.mem_of_mem_take member)⟩
  | flush pages =>
      exact ⟨_, rfl, (Database.path_flushEach steady pages).1.saves fun _ _ member =>
        .flush member⟩
  | flushAll =>
      exact ⟨_, rfl, grounded.moves_flushAll⟩
  | discard page => exact ⟨_, rfl, .single (.drop page) .discard⟩
  | release transaction page =>
      exact ⟨_, rfl, .single (.lock (.release transaction page)) .release⟩
  | interrupt transaction =>
      exact ⟨_, rfl, .single (.lock (.interrupt transaction)) .interrupt⟩
  | edit frame call =>
      unfold Engine.serve
      dsimp only
      cases held : engine.database.pool.frames[frame]? with
      | none => exact ⟨engine.database, rfl, unchanged⟩
      | some content =>
          have typed : ∀ edit ∈ [call], edit.Typed := by
            intro edit member
            cases List.mem_singleton.mp member
            exact proper
          exact ⟨_, rfl, .single (.edit held typed) (.edit held)⟩
  | append file => exact ⟨_, rfl, .single (.grow file) .append⟩
  | createTable path schema name =>
      refine ⟨_, rfl, ?_⟩
      rw [Database.createTable_eq]
      split
      · rename_i opened file opensFile
        exact path_opened rfl steady.catalog rfl opensFile name
      · exact .here _
  | openTable path schema name =>
      refine ⟨_, rfl, ?_⟩
      rw [Database.openTable_eq]
      split
      · split
        · rename_i opened file opensFile
          exact path_opened rfl steady.catalog rfl opensFile name
        · exact .here _
      · exact .here _
  | openFile path opening schema pageSize =>
      unfold Engine.serve
      dsimp only
      cases opensFile : engine.database.openFile path opening schema pageSize with
      | error fault => exact ⟨engine.database, rfl, unchanged⟩
      | ok answer => exact ⟨_, rfl, (path_openFile rfl opensFile).1⟩
  | register file name =>
      unfold Engine.serve
      dsimp only
      cases registers : engine.database.register file name with
      | error fault => exact ⟨engine.database, rfl, unchanged⟩
      | ok registered =>
          obtain ⟨catalog, added, rfl⟩ := Database.register_cases registers
          exact ⟨_, rfl, .single (.recatalogue (steady.catalog.register proper added))
            (.recatalogue rfl)⟩
  | clearCatalog =>
      exact ⟨_, rfl, .single (.recatalogue (Catalog.sound_empty _)) (.recatalogue rfl)⟩

theorem Grounded.serve (grounded : engine.Grounded) {action : DatabaseAction}
    (proper : engine.Proper action) :
    Path (engine.Makes action) engine.database (engine.serve action).database ∧
      (engine.serve action).Grounded := by
  by_cases idle : ∀ (ticket : Nat), action ≠ .perform (.turn ticket) ∧
      ∀ operation, action ≠ .perform (.begin ticket operation)
  · obtain ⟨next, serves, path⟩ := grounded.path_idle proper idle
    rw [serves]
    exact ⟨path, grounded.setDatabase (fun ticket => (idle ticket).1) path⟩
  · cases action with
    | perform action =>
        cases action with
        | begin ticket operation => exact grounded.begin proper.1 proper.2
        | turn ticket => exact grounded.turn ticket
        | _ => exact absurd (fun _ => ⟨nofun, nofun⟩) idle
    | _ => exact absurd (fun _ => ⟨nofun, nofun⟩) idle

/-- A task was under way before the action, or comes of the operation that begins, or of the task
that takes its turn and is granted its lock. -/
theorem Grounded.task_cases (grounded : engine.Grounded) {action : DatabaseAction}
    (proper : engine.Proper action) {ticket : Nat} {rest : Task}
    (found : (engine.serve action).tasks[ticket]? = some rest) :
    engine.tasks[ticket]? = some rest ∨
    (∃ operation, action = .perform (.begin ticket operation) ∧
      (Progress.ofOperation engine.database operation).2 = .waiting rest) ∨
    ∃ task, action = .perform (.turn ticket) ∧ engine.tasks[ticket]? = some task ∧
      (engine.checked ticket task).pool.locks.Permits task.request ∧
        (Progress.ofTask (engine.checked ticket task) task).2 = .waiting rest := by
  by_cases idle : ∀ (ticket : Nat), action ≠ .perform (.turn ticket) ∧
      ∀ operation, action ≠ .perform (.begin ticket operation)
  · obtain ⟨next, serves, _⟩ := grounded.path_idle proper idle
    rw [serves] at found
    exact .inl found
  · cases action with
    | perform action =>
        cases action with
        | begin began operation =>
            change (engine.begin began operation).1.tasks[ticket]? = some rest at found
            unfold Engine.begin at found
            dsimp only at found
            rw [tasks_note] at found
            split at found
            · rename_i same
              subst same
              exact .inr (.inl ⟨operation, rfl, Progress.eq_waiting found⟩)
            · exact .inl found
        | turn turned =>
            change (engine.turn turned).1.tasks[ticket]? = some rest at found
            cases under : engine.tasks[turned]? with
            | none =>
                rw [turn_of_unused under] at found
                exact .inl found
            | some task =>
                cases grounded.turnsTo under with
                | asleep comes still =>
                    rw [comes] at found
                    exact .inl found
                | refused fault comes awake =>
                    rw [comes, tasks_note] at found
                    split at found
                    · cases found
                    · exact .inl found
                | granted comes awake permits =>
                    rw [comes, tasks_note] at found
                    split at found
                    · rename_i same
                      subst same
                      exact .inr (.inr ⟨task, rfl, under, permits, Progress.eq_waiting found⟩)
                    · exact .inl found
        | _ => exact absurd (fun _ => ⟨nofun, nofun⟩) idle
    | _ => exact absurd (fun _ => ⟨nofun, nofun⟩) idle

theorem Grounded.serveEach (grounded : engine.Grounded) {actions : List DatabaseAction}
    (proper : engine.Along Proper actions) : (engine.serveEach actions).Grounded :=
  proper.keeps Grounded (fun _ _ grounded proper => (grounded.serve proper).2) grounded

end

end Engine

end RowStore
