import RowStore.Proofs.Database.Provenance
import RowStore.Proofs.Engine.Tenure

/-!
Provenance of answers: the rows that operations show are rows that were stored. A chronicle tells
what was stored since some moment, and everything that an operation begun since then shows of the
tracked pages of a file is told by it, or was known before.
-/

set_option autoImplicit false

namespace RowStore

/-! ### Chronicles -/

/-- What came of the actions since some moment, behind what was known before. -/
structure Chronicle where
  changes : List Change
  /-- The tickets of the operations that began. -/
  tickets : List Nat
  /-- The scans that these operations left to their callers. -/
  scans : List Scan

def DatabaseAction.scan? : DatabaseAction → Option Scan
  | .perform (.begin _ (.scan scan _)) => some scan
  | _ => none

namespace Turn

def outcome? : Turn → Option Outcome
  | .finished outcome => some outcome
  | _ => none

end Turn

namespace Engine

/-- The ticket of the operation that an action brings to its end, with what comes of it. -/
def outcome? (engine : Engine) : DatabaseAction → Option (Nat × Outcome)
  | .perform (.begin ticket operation) =>
      (engine.begin ticket operation).2.outcome?.map (ticket, ·)
  | .perform (.turn ticket) => (engine.turn ticket).2.outcome?.map (ticket, ·)
  | _ => none

theorem outcome?_cases {engine : Engine} {action : DatabaseAction} {ticket : Nat}
    {outcome : Outcome} (comes : engine.outcome? action = some (ticket, outcome)) :
    (∃ operation, action = .perform (.begin ticket operation) ∧
      (engine.begin ticket operation).2 = .finished outcome) ∨
    action = .perform (.turn ticket) ∧ (engine.turn ticket).2 = .finished outcome := by
  have ends {turn : Turn} {own : Nat}
      (comes : turn.outcome?.map (own, ·) = some (ticket, outcome)) :
      own = ticket ∧ turn = .finished outcome := by
    obtain ⟨_, finishes, same⟩ := Option.map_eq_some_iff.mp comes
    cases same
    cases turn with
    | finished _ =>
        cases finishes
        exact ⟨rfl, rfl⟩
    | _ => cases finishes
  cases action with
  | perform action =>
      cases action with
      | begin began operation =>
          obtain ⟨rfl, finishes⟩ := ends comes
          exact .inl ⟨operation, rfl, finishes⟩
      | turn turned =>
          obtain ⟨rfl, finishes⟩ := ends comes
          exact .inr ⟨rfl, finishes⟩
      | _ => cases comes
  | _ => cases comes

end Engine

namespace Chronicle

def since (known : List Change) : Chronicle :=
  { changes := known
    tickets := []
    scans := [] }

def ticketsAfter (chronicle : Chronicle) : DatabaseAction → List Nat
  | .perform (.begin ticket _) => ticket :: chronicle.tickets
  | _ => chronicle.tickets

theorem mem_ticketsAfter {chronicle : Chronicle} {ticket : Nat}
    (member : ticket ∈ chronicle.tickets) (action : DatabaseAction) :
    ticket ∈ chronicle.ticketsAfter action := by
  cases action with
  | perform action =>
      cases action with
      | begin began operation => exact List.mem_cons_of_mem began member
      | _ => exact member
  | _ => exact member

def scansAfter (chronicle : Chronicle) (engine : Engine) (action : DatabaseAction) : List Scan :=
  match engine.outcome? action with
  | some (ticket, .scanned scan _ _) =>
      if ticket ∈ chronicle.ticketsAfter action then scan :: chronicle.scans else chronicle.scans
  | _ => chronicle.scans

def after (chronicle : Chronicle) (engine : Engine) (action : DatabaseAction) : Chronicle :=
  { changes := chronicle.changes ++ engine.changes action
    tickets := chronicle.ticketsAfter action
    scans := chronicle.scansAfter engine action }

def afterEach (chronicle : Chronicle) (engine : Engine) : List DatabaseAction → Chronicle
  | [] => chronicle
  | action :: rest => (chronicle.after engine action).afterEach (engine.serve action) rest

def Continues (chronicle : Chronicle) (action : DatabaseAction) : Prop :=
  ∀ scan ∈ action.scan?, scan.current = [] ∨ scan ∈ chronicle.scans

instance (chronicle : Chronicle) (action : DatabaseAction) :
    Decidable (chronicle.Continues action) :=
  inferInstanceAs (Decidable (∀ scan ∈ action.scan?, _))

/-- The action may come now: the file stays the only one at its path, and scans go on with what they
were given. -/
structure Admits (chronicle : Chronicle) (file : TableFile) (engine : Engine)
    (action : DatabaseAction) : Prop where
  proper : engine.Proper action
  upholds : Engine.Upholds file engine action
  continues : chronicle.Continues action

instance (chronicle : Chronicle) (file : TableFile) (engine : Engine) (action : DatabaseAction) :
    Decidable (chronicle.Admits file engine action) :=
  decidable_of_iff (engine.Proper action ∧ Engine.Upholds file engine action ∧
      chronicle.Continues action)
    ⟨fun all => ⟨all.1, all.2.1, all.2.2⟩, fun admits =>
      ⟨admits.proper, admits.upholds, admits.continues⟩⟩

def AdmitsEach (chronicle : Chronicle) (file : TableFile) (engine : Engine) :
    List DatabaseAction → Prop
  | [] => True
  | action :: rest => chronicle.Admits file engine action ∧
      (chronicle.after engine action).AdmitsEach file (engine.serve action) rest

def decideAdmitsEach (chronicle : Chronicle) (file : TableFile) (engine : Engine) :
    (actions : List DatabaseAction) → Decidable (chronicle.AdmitsEach file engine actions)
  | [] => isTrue trivial
  | action :: rest =>
      have := (chronicle.after engine action).decideAdmitsEach file (engine.serve action) rest
      inferInstanceAs (Decidable (_ ∧ _))

instance (chronicle : Chronicle) (file : TableFile) (engine : Engine)
    (actions : List DatabaseAction) : Decidable (chronicle.AdmitsEach file engine actions) :=
  chronicle.decideAdmitsEach file engine actions

end Chronicle

/-! ### What is traced to the chronicle -/

section

variable (file : TableFile) (tracked : Nat → Prop) (log : List Change)

/-- The row is stored in the file's table, and the log knows it if its page is tracked. -/
def Row.Traced (row : Row) : Prop :=
  ∃ record, row.record = some record ∧ record.page.table = file.id ∧
    (tracked record.page.number → row.Known log)

def Scan.Traced (scan : Scan) (rows : List Row) : Prop :=
  scan.file.id = file.id → ∀ row ∈ rows ++ scan.current, row.Traced file tracked log

def Task.Traced : Task → Prop
  | .scanning scan _ rows => scan.Traced file tracked log rows
  | _ => True

def Outcome.Traced : Outcome → Prop
  | .fetched _ page => page.id.table = file.id → tracked page.id.number → page.Known log
  | .scanned scan rows _ => scan.Traced file tracked log rows
  | _ => True

def Progress.Traced : Progress → Prop
  | .finished outcome => outcome.Traced file tracked log
  | .waiting task => task.Traced file tracked log

end

section

variable {file : TableFile} {tracked : Nat → Prop} {log more : List Change}

theorem Scan.Traced.mono {scan : Scan} {rows : List Row}
    (traced : scan.Traced file tracked log rows) (within : ∀ change ∈ log, change ∈ more) :
    scan.Traced file tracked more rows := by
  intro own row member
  obtain ⟨record, recorded, table, known⟩ := traced own row member
  exact ⟨record, recorded, table, fun tracks => (known tracks).mono within⟩

theorem Outcome.Traced.mono {outcome : Outcome} (traced : outcome.Traced file tracked log)
    (within : ∀ change ∈ log, change ∈ more) : outcome.Traced file tracked more := by
  cases outcome with
  | fetched frame page => exact fun own tracks => (traced own tracks).mono within
  | scanned scan rows ending => exact Scan.Traced.mono traced within
  | _ => trivial

theorem Task.Traced.mono {task : Task} (traced : task.Traced file tracked log)
    (within : ∀ change ∈ log, change ∈ more) : task.Traced file tracked more := by
  cases task with
  | scanning scan left rows => exact Scan.Traced.mono traced within
  | _ => trivial

theorem Page.traced_rows {page : Page} (wellFormed : page.WellFormed)
    (own : page.id.table = file.id) (known : tracked page.id.number → page.Known log) (row : Row)
    (member : row ∈ page.rows) : row.Traced file tracked log := by
  obtain ⟨slot, found⟩ := Page.mem_rows.mp member
  obtain ⟨_, _, recorded⟩ := wellFormed.rows slot row found
  exact ⟨⟨page.id, slot⟩, recorded, own, fun tracks => known tracks row member⟩

theorem Task.Traced.fail {task : Task} (traced : task.Traced file tracked log)
    (fault : Fault) : (task.fail fault).Traced file tracked log := by
  cases task with
  | scanning scan left rows => exact traced
  | _ => trivial

namespace Database

variable {database : Database}

private theorem traced_scanNext {scan : Scan} {rows : List Row}
    (traced : scan.Traced file tracked log rows) (database : Database) (left : Nat) :
    (Progress.scanNext database scan left rows).2.Traced file tracked log := by
  obtain ⟨rest, given, same, ⟨_, sameFile, _⟩, ⟨ending, ends, _⟩ | ⟨more, _, goesOn⟩⟩ :=
    scanNext_cases database scan left rows
  · rw [ends]
    intro own row member
    rw [List.append_assoc, same] at member
    rw [sameFile] at own
    exact traced own row member
  · rw [goesOn]
    intro own row member
    rw [List.append_assoc, same] at member
    rw [sameFile] at own
    exact traced own row member

private theorem scanNext_database (database : Database) (scan : Scan) (left : Nat)
    (rows : List Row) : (Progress.scanNext database scan left rows).1 = database := by
  obtain ⟨_, _, _, _, ⟨_, ends, _⟩ | ⟨_, _, goesOn⟩⟩ := scanNext_cases database scan left rows
  · rw [ends]
  · rw [goesOn]

private theorem traced_insertFile (database : Database) (transaction : TransactionId)
    (own : TableFile) (row : Row) (handover : Handover) :
    (Progress.insertFile database transaction own row handover).2.Traced file tracked log := by
  unfold Progress.insertFile
  split
  · trivial
  · trivial

private theorem traced_deleteFile (database : Database) (transaction : TransactionId)
    (own : TableFile) (row : Row) (handover : Handover) :
    (Progress.deleteFile database transaction own row handover).2.Traced file tracked log := by
  unfold Progress.deleteFile
  split
  · trivial
  · split
    · trivial
    · trivial

private theorem traced_ofOperation (database : Database) {operation : Operation}
    (plain : operation.Plain)
    (traced : ∀ scan count, operation = .scan scan count → scan.Traced file tracked log []) :
    (Progress.ofOperation database operation).2.Traced file tracked log := by
  cases operation with
  | scan scan count => exact traced_scanNext (traced scan count rfl) database count
  | insert transaction table row =>
      unfold Progress.ofOperation Progress.insertTable
      dsimp only
      split
      · exact traced_insertFile database transaction _ row .toPool
      · trivial
  | insertInto transaction own row =>
      exact traced_insertFile database transaction own row .toCaller
  | delete transaction row =>
      unfold Progress.ofOperation Progress.deleteTable
      dsimp only
      split
      · trivial
      · split
        · trivial
        · exact traced_deleteFile database transaction _ row .toPool
  | deleteFrom transaction own row =>
      exact traced_deleteFile database transaction own row .toCaller
  | fill transaction table row copies => exact plain.elim
  | _ => trivial

private theorem traced_fetch (steady : database.Steady) (transaction : TransactionId)
    (page : PageId) (access : Access)
    (after : (Progress.fetch database transaction page access).1.Steady)
    (sourced : (Progress.fetch database transaction page access).1.Sourced file tracked log) :
    (Progress.fetch database transaction page access).2.Traced file tracked log := by
  cases fetches : Progress.fetch database transaction page access with
  | mk next progress =>
      rw [fetches] at after sourced
      cases progress with
      | waiting task =>
          unfold Progress.fetch at fetches
          dsimp only at fetches
          split at fetches <;> cases fetches
      | finished outcome =>
          cases outcome with
          | fetched frame content =>
              obtain ⟨found, _⟩ := found_of_fetched steady fetches
              intro own tracks
              obtain rfl := after.sound.id_eq found
              have here : content.id = file.pageId content.id.number := by
                rw [TableFile.pageId, ← own]
              rw [here] at found
              exact (sourced.pool content.id.number tracks frame content found).2
          | scanned scan rows ending =>
              unfold Progress.fetch at fetches
              dsimp only at fetches
              split at fetches <;> cases fetches
          | _ => trivial

private theorem traced_scan (steady : database.Steady) {scan : Scan} {rows : List Row}
    (traced : scan.Traced file tracked log rows) (left : Nat)
    (after : (Progress.scan database scan left rows).1.Steady)
    (sourced : (Progress.scan database scan left rows).1.Sourced file tracked log) :
    (Progress.scan database scan left rows).2.Traced file tracked log := by
  unfold Progress.scan at after sourced ⊢
  cases loads : database.load scan.page with
  | error fault => exact traced
  | ok reached =>
      obtain ⟨loaded, frame, content⟩ := reached
      rw [loads] at after sourced
      dsimp only at after sourced ⊢
      have same := scanNext_database loaded (scan.take content) left rows
      rw [same] at after sourced
      apply traced_scanNext
      obtain ⟨_, found⟩ := path_load steady.sound loads
      have id := after.sound.id_eq found
      have wellFormed := (after.frames _ _ (Pool.residentFrame?_eq_some.mp found).2).2
      intro own row member
      rcases List.mem_append.mp member with before | taken
      · exact traced own row (List.mem_append_left _ before)
      · have table : content.id.table = file.id := by
          rw [id]
          exact own
        have here : scan.page = file.pageId content.id.number := by
          rw [← id, TableFile.pageId, ← table]
        rw [here] at found
        exact Page.traced_rows wellFormed table
          (fun tracks => (sourced.pool content.id.number tracks frame content found).2) row taken

private theorem traced_ofTask (steady : database.Steady) {task : Task} (plain : task.Plain)
    (traced : task.Traced file tracked log) (after : (Progress.ofTask database task).1.Steady)
    (sourced : (Progress.ofTask database task).1.Sourced file tracked log) :
    (Progress.ofTask database task).2.Traced file tracked log := by
  cases task with
  | locking request => trivial
  | fetching transaction page access =>
      exact traced_fetch steady transaction page access after sourced
  | inserting insertion handover =>
      unfold Progress.ofTask Progress.insert
      dsimp only
      split
      · trivial
      · trivial
      · split
        · trivial
        · trivial
  | filling insertion table left stored last => exact plain.elim
  | deleting transaction row page handover =>
      unfold Progress.ofTask Progress.delete
      dsimp only
      split
      · trivial
      · split
        · trivial
        · split
          · trivial
          · trivial
  | scanning scan left rows => exact traced_scan steady traced left after sourced

end Database

/-! ### Every answer is traced -/

namespace Engine

variable {engine : Engine} {action : DatabaseAction}

theorem Hosts.sourced (hosts : engine.Hosts file) (grounded : engine.Grounded)
    (proper : engine.Proper action) (upholds : Upholds file engine action)
    (sourced : engine.database.Sourced file tracked log) :
    (engine.serve action).database.Sourced file tracked (log ++ engine.changes action) := by
  refine grounded.serve_keeps proper
    (fun current => current.Sourced file tracked (log ++ engine.changes action)) ?_
    (sourced.mono fun _ member => List.mem_append_left _ member)
  intro current next move steady within sourced makes moves
  apply sourced.moves moves steady (hosts.respects grounded.steady upholds within makes)
  intro frame edits number content edited own found known
  subst edited
  have wellFormed := (steady.frames _ _ (Pool.residentFrame?_eq_some.mp found).2).2
  have typed : ∀ edit ∈ edits, edit.Typed := by
    cases moves with
    | edit _ typed => exact typed
  have held := (Pool.residentFrame?_eq_some.mp found).2
  cases makes.edits with
  | @turn _ _ _ old call _ _ resident _ gains _ _ =>
      cases held.symm.trans (Pool.residentFrame?_eq_some.mp resident).2
      exact known.edit wellFormed (typed call List.mem_cons_self)
        (fun change member => List.mem_append_right _ (gains change member))
  | @edit call old heldBefore =>
      cases held.symm.trans heldBefore
      refine known.edit wellFormed (typed call List.mem_cons_self) ?_
      intro change member
      apply List.mem_append_right
      unfold changes
      dsimp only
      rw [held]
      exact member

/-- Everything that is known of the file's tracked pages, and everything that is under way with
them, is traced to the chronicle. -/
structure Chronicled (engine : Engine) (file : TableFile) (tracked : Nat → Prop)
    (chronicle : Chronicle) : Prop where
  grounded : engine.Grounded
  hosts : engine.Hosts file
  sourced : engine.database.Sourced file tracked chronicle.changes
  tasks : ∀ ticket ∈ chronicle.tickets, ∀ task, engine.tasks[ticket]? = some task →
    task.Traced file tracked chronicle.changes
  scans : ∀ scan ∈ chronicle.scans, scan.Traced file tracked chronicle.changes []

variable {chronicle : Chronicle}

private theorem Chronicled.begun (chronicled : engine.Chronicled file tracked chronicle)
    {ticket : Nat} {operation : Operation} (plain : operation.Plain)
    (continues : chronicle.Continues (.perform (.begin ticket operation))) :
    (Progress.ofOperation engine.database operation).2.Traced file tracked chronicle.changes := by
  apply Database.traced_ofOperation engine.database plain
  intro scan count scans
  subst scans
  rcases continues scan rfl with fresh | left
  · intro _ row member
    rw [fresh] at member
    cases member
  · exact chronicled.scans scan left

private theorem Chronicled.turned (chronicled : engine.Chronicled file tracked chronicle)
    {ticket : Nat} {task : Task} (member : ticket ∈ chronicle.tickets)
    (found : engine.tasks[ticket]? = some task)
    (upholds : Upholds file engine (.perform (.turn ticket)))
    (comes : engine.turn ticket =
      engine.note ticket (Progress.ofTask (engine.checked ticket task) task).1
        (Progress.ofTask (engine.checked ticket task) task).2)
    (permits : (engine.checked ticket task).pool.locks.Permits task.request) :
    (Progress.ofTask (engine.checked ticket task) task).2.Traced file tracked
      (chronicle.changes ++ engine.changes (.perform (.turn ticket))) := by
  have steady := chronicled.grounded.checked ticket task
  have sourced := chronicled.hosts.sourced chronicled.grounded (by trivial) upholds
    chronicled.sourced
  have serves : (engine.serve (.perform (.turn ticket))).database =
      (Progress.ofTask (engine.checked ticket task) task).1 := by
    change (engine.turn ticket).1.database = _
    rw [comes, database_note]
  rw [serves] at sourced
  exact Database.traced_ofTask steady (chronicled.grounded.plain ticket task found)
    ((chronicled.tasks ticket member task found).mono fun _ => List.mem_append_left _)
    ((chronicled.grounded.works found permits).path.steady steady) sourced

theorem Chronicled.shows (chronicled : engine.Chronicled file tracked chronicle)
    (admits : chronicle.Admits file engine action) {ticket : Nat} {outcome : Outcome}
    (comes : engine.outcome? action = some (ticket, outcome))
    (member : ticket ∈ chronicle.ticketsAfter action) :
    outcome.Traced file tracked (chronicle.after engine action).changes := by
  rcases outcome?_cases comes with ⟨operation, rfl, finishes⟩ | ⟨rfl, finishes⟩
  · have traced := chronicled.begun admits.proper.2 admits.continues
    have ending : (Progress.ofOperation engine.database operation).2 = .finished outcome :=
      eq_finished_of_note finishes
    rw [ending] at traced
    exact Outcome.Traced.mono traced fun _ => List.mem_append_left _
  · cases found : engine.tasks[ticket]? with
    | none =>
        rw [turn_of_unused found] at finishes
        cases finishes
    | some task =>
        cases chronicled.grounded.turnsTo found with
        | asleep asleep _ =>
            rw [asleep] at finishes
            cases finishes
        | refused fault refused _ =>
            rw [refused] at finishes
            cases eq_finished_of_note finishes
            exact Outcome.Traced.mono ((chronicled.tasks ticket member task found).fail fault)
              fun _ => List.mem_append_left _
        | granted granted _ permits =>
            have traced := chronicled.turned member found admits.upholds granted permits
            rw [granted] at finishes
            rw [eq_finished_of_note finishes] at traced
            exact traced

private theorem Chronicled.traced_task (chronicled : engine.Chronicled file tracked chronicle)
    (admits : chronicle.Admits file engine action) {ticket : Nat}
    (member : ticket ∈ chronicle.ticketsAfter action) {task : Task}
    (found : (engine.serve action).tasks[ticket]? = some task) :
    task.Traced file tracked (chronicle.after engine action).changes := by
  have grounded := chronicled.grounded
  have grows : ∀ change ∈ chronicle.changes, change ∈ (chronicle.after engine action).changes :=
    fun _ => List.mem_append_left _
  rcases grounded.task_cases admits.proper found with
    before | ⟨operation, rfl, begun⟩ | ⟨old, rfl, foundBefore, permits, goesOn⟩
  · refine (chronicled.tasks ticket ?_ task before).mono grows
    -- The ticket of an operation that begins is not one of an operation under way.
    cases action with
    | perform action =>
        cases action with
        | begin began operation =>
            rcases List.mem_cons.mp member with rfl | listed
            · cases admits.proper.1.symm.trans before
            · exact listed
        | _ => exact member
    | _ => exact member
  · have traced := chronicled.begun admits.proper.2 admits.continues
    rw [begun] at traced
    exact Task.Traced.mono traced grows
  · cases grounded.turnsTo foundBefore with
    | asleep comes _ =>
        change (engine.turn ticket).1.tasks[ticket]? = some task at found
        rw [comes] at found
        exact (chronicled.tasks ticket member task found).mono grows
    | refused _ comes _ =>
        change (engine.turn ticket).1.tasks[ticket]? = some task at found
        rw [comes, tasks_note, if_pos rfl] at found
        cases found
    | granted comes _ _ =>
        have traced := chronicled.turned member foundBefore admits.upholds comes permits
        rw [goesOn] at traced
        exact traced

private theorem Chronicled.traced_scan (chronicled : engine.Chronicled file tracked chronicle)
    (admits : chronicle.Admits file engine action) {scan : Scan}
    (member : scan ∈ chronicle.scansAfter engine action) :
    scan.Traced file tracked (chronicle.after engine action).changes [] := by
  have before (listed : scan ∈ chronicle.scans) :
      scan.Traced file tracked (chronicle.after engine action).changes [] :=
    (chronicled.scans scan listed).mono fun _ => List.mem_append_left _
  unfold Chronicle.scansAfter at member
  split at member
  · rename_i ticket left rows ending comes
    split at member
    · rename_i own
      rcases List.mem_cons.mp member with rfl | listed
      · have traced := chronicled.shows admits comes own
        exact fun table row kept => traced table row (List.mem_append_right _ kept)
      · exact before listed
    · exact before member
  · exact before member

theorem Chronicled.serve (chronicled : engine.Chronicled file tracked chronicle)
    (admits : chronicle.Admits file engine action) :
    (engine.serve action).Chronicled file tracked (chronicle.after engine action) where
  grounded := (chronicled.grounded.serve admits.proper).2
  hosts := chronicled.hosts.serve chronicled.grounded admits.proper admits.upholds
  sourced := chronicled.hosts.sourced chronicled.grounded admits.proper admits.upholds
    chronicled.sourced
  tasks := fun _ member _ found => chronicled.traced_task admits member found
  scans := fun _ member => chronicled.traced_scan admits member

theorem Chronicled.serveEach (chronicled : engine.Chronicled file tracked chronicle)
    {actions : List DatabaseAction} (admits : chronicle.AdmitsEach file engine actions) :
    (engine.serveEach actions).Chronicled file tracked (chronicle.afterEach engine actions) := by
  induction actions generalizing engine chronicle with
  | nil => exact chronicled
  | cons action rest ih => exact ih (chronicled.serve admits.1) admits.2

end Engine

end

end RowStore
