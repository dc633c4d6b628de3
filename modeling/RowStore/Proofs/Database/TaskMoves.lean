import RowStore.Proofs.Database.Moves
import RowStore.Proofs.Engine.Steps

/-!
Moves of operations: an operation adds pages before its first lock, and under a lock it notes,
loads and edits the page that it asked for, or adds one. It never writes a page back, drops none
with changes, and takes and gives back no lock.
-/

set_option autoImplicit false

namespace RowStore

/-! ### What operations are about -/

def Page.gains (page : Page) : PageEdit → List Change
  | .insert row =>
      match page.insert row with
      | .ok (_, stored) => (stored.record.map (fun record => ⟨record, some row.fields⟩)).toList
      | .error _ => []
  | _ => []

structure Page.Takes (page next : Page) (change : Change) : Prop where
  own : change.record.page = page.id
  rows : ∀ slot, (next.row? slot).map Row.fields =
    if slot = change.record.slot then change.fields else (page.row? slot).map Row.fields

theorem Page.WellFormed.takes_insert {page next : Page} (wellFormed : page.WellFormed)
    {row stored : Row} (typed : row.Typed) (inserts : page.insert row = .ok (next, stored)) :
    ∃ record, stored.record = some record ∧ page.Takes next ⟨record, some row.fields⟩ := by
  obtain ⟨_, slot, _, inside, rfl, rfl⟩ := wellFormed.insert typed inserts
  refine ⟨⟨page.id, slot⟩, rfl, rfl, ?_⟩
  intro other
  rw [Page.row?_assign inside]
  dsimp only
  split <;> rfl

theorem Page.WellFormed.takes_delete {page next : Page} (wellFormed : page.WellFormed) {row : Row}
    (deletes : page.delete row = .ok next) :
    ∃ record, row.record = some record ∧ page.Takes next ⟨record, none⟩ := by
  obtain ⟨_, slot, recorded, inside, _, rfl⟩ := wellFormed.delete deletes
  refine ⟨⟨page.id, slot⟩, recorded, rfl, ?_⟩
  intro other
  rw [Page.row?_assign inside]
  dsimp only
  split <;> rfl

def Task.changes (task : Task) : Progress → List Change
  | .finished outcome => (task.change? outcome).toList
  | .waiting _ => []

def Task.file? : Task → Option TableFile
  | .inserting insertion _ => some insertion.file
  | .filling insertion _ _ _ _ => some insertion.file
  | _ => none

def Task.isEdit : Task → Bool
  | .inserting _ _ => true
  | .filling _ _ _ _ _ => true
  | .deleting _ _ _ _ => true
  | _ => false

/-- A row to be stored has the field types of its schema. A filling is as many insertions. -/
def Task.Plain : Task → Prop
  | .inserting insertion _ => insertion.row.Typed
  | .filling _ _ _ _ _ => False
  | _ => True

def Operation.file? : Operation → Option TableFile
  | .insertInto _ file _ => some file
  | _ => none

def Operation.Plain : Operation → Prop
  | .insert _ _ row => row.Typed
  | .insertInto _ _ row => row.Typed
  | .fill _ _ _ _ => False
  | _ => True

instance : (operation : Operation) → Decidable operation.Plain
  | .insert _ _ row => inferInstanceAs (Decidable row.Typed)
  | .insertInto _ _ row => inferInstanceAs (Decidable row.Typed)
  | .fill _ _ _ _ => isFalse id
  | .lock _ | .fetch _ _ _ | .delete _ _ | .deleteFrom _ _ _ | .scan _ _ => isTrue trivial

inductive Task.Makes (task : Task) (progress : Progress) (database : Database) : Move → Prop where
  | note (writes : task.request.mode = .exclusive) :
      Makes task progress database (.note task.request.transaction task.request.page)
  | evict (page : PageId) : Makes task progress database (.evict page)
  | arrive {content : Page} (own : content.id = task.request.page) :
      Makes task progress database (.arrive content)
  | edit {frame : Nat} {content : Page} {call : PageEdit}
      (edits : task.isEdit = true)
      (found : database.pool.residentFrame? task.request.page = some (frame, content))
      (alone : database.pool.locks.lockMode? task.request.transaction task.request.page =
        some .exclusive)
      (gains : ∀ change ∈ content.gains call, change ∈ task.changes progress)
      (noted : task.request.page ∈ database.pool.writtenBy task.request.transaction)
      (takes : ∃ change ∈ task.changes progress, content.Takes (content.edit call) change) :
      Makes task progress database (.edit frame [call, .mark (some task.request.transaction)])
  | grow {file : TableFile} (own : task.file? = some file) :
      Makes task progress database (.grow file)

inductive Move.Fetches (page : PageId) : Move → Prop where
  | evict (gone : PageId) : Fetches page (.evict gone)
  | arrive {content : Page} (own : content.id = page) : Fetches page (.arrive content)

inductive Task.Readies (task : Task) : Move → Prop where
  | note (writes : task.request.mode = .exclusive) :
      Readies task (.note task.request.transaction task.request.page)
  | fetch {move : Move} (fetches : move.Fetches task.request.page) : Readies task move
  | grow {file : TableFile} (own : task.file? = some file) : Readies task (.grow file)

theorem Task.Readies.makes {task : Task} {move : Move} (readies : task.Readies move)
    (progress : Progress) (database : Database) : task.Makes progress database move := by
  cases readies with
  | note writes => exact .note writes
  | fetch fetches =>
      cases fetches with
      | evict gone => exact .evict gone
      | arrive own => exact .arrive own
  | grow own => exact .grow own

theorem Task.Readies.path {task : Task} {database last : Database}
    (path : Path (fun _ => task.Readies) database last) (progress : Progress) :
    Path (task.Makes progress) database last :=
  path.mono (fun current _ readies => readies.makes progress current)

/-- What a task does under its lock: it changes no page, or its own page once, which it means to
write. -/
inductive Database.Alters (database : Database) (task : Task) : Database × Progress → Prop where
  | none {next : Database} {progress : Progress}
      (path : Path (fun _ => task.Readies) database next)
      (unchanged : task.changes progress = []) : Alters database task (next, progress)
  | one {loaded changed next : Database} {progress : Progress} {frame : Nat} {content : Page}
      {call : PageEdit} {change : Change}
      (readies : Path (fun _ => task.Readies) database loaded)
      (edits : task.isEdit = true)
      (found : loaded.pool.residentFrame? task.request.page = some (frame, content))
      (noted : task.request.page ∈ loaded.pool.writtenBy task.request.transaction)
      (alone : loaded.pool.locks.lockMode? task.request.transaction task.request.page =
        some .exclusive)
      (gains : ∀ gained ∈ content.gains call, gained ∈ task.changes progress)
      (moves : loaded.Moves (.edit frame [call, .mark (some task.request.transaction)]) changed)
      (takes : content.Takes (content.edit call) change)
      (rest : Path (fun _ => task.Readies) changed next)
      (changes : task.changes progress = [change]) : Alters database task (next, progress)

theorem Database.Alters.path {database : Database} {task : Task} {next : Database × Progress}
    (alters : database.Alters task next) : Path (task.Makes next.2) database next.1 := by
  cases alters with
  | none path _ => exact Task.Readies.path path _
  | one readies edits found noted alone gains moves takes rest changes =>
      have shown := changes ▸ List.mem_singleton_self _
      exact (Task.Readies.path readies _).trans
        (.on moves (.edit edits found alone gains noted ⟨_, shown, takes⟩)
          (Task.Readies.path rest _))

theorem Task.Makes.locks {task : Task} {progress : Progress} {database last : Database}
    (path : Path (task.Makes progress) database last) : last.pool.locks = database.pool.locks := by
  induction path with
  | here _ => rfl
  | on moves permitted _ ih =>
      rw [ih, moves.locks]
      cases permitted <;> rfl

namespace Database

section

variable {database : Database}

/-! ### Loading -/

/-- A page comes into the pool by a move of its own, behind one that makes room for it if there is
none. -/
private theorem path_installNew (sound : database.pool.Sound) {content : Page} {pool : Pool}
    {frame : Nat} (absent : database.pool.residentFrame? content.id = none)
    (onDisk : database.diskPage? content.id = some content)
    (installs : database.pool.installNew content = .ok (pool, frame)) :
    Path (fun _ => Move.Fetches content.id) database { database with pool := pool } := by
  unfold Pool.installNew Pool.install at installs
  rw [sound.isCached_eq_false absent] at installs
  cases makes : database.pool.makeRoom with
  | error fault =>
      rw [makes] at installs
      cases installs
  | ok roomy =>
      rw [makes] at installs
      cases installs
      rcases Pool.makeRoom_cases makes with ⟨_, rfl⟩ | ⟨victim, held, old, found, clean, free, rfl⟩
      · exact .single (.arrive absent onDisk) (.arrive rfl)
      · refine .on (.evict found clean free) (.evict victim)
          (.single (.arrive ?_ onDisk) (.arrive rfl))
        refine (database.pool.residentFrame?_discard victim content.id).trans ?_
        split
        · rfl
        · exact absent

theorem path_load (sound : database.pool.Sound) {loaded : Database} {page : PageId} {frame : Nat}
    {content : Page} (loads : database.load page = .ok (loaded, frame, content)) :
    Path (fun _ => Move.Fetches page) database loaded ∧
      loaded.pool.residentFrame? page = some (frame, content) := by
  have resident : loaded.pool.residentFrame? page = some (frame, content) := by
    obtain ⟨pool, rfl, takes, _⟩ := load_cases sound loads
    exact takes.found
  unfold load at loads
  cases found : database.pool.residentFrame? page with
  | some entry =>
      rw [found] at loads
      cases loads
      exact ⟨.here _, found⟩
  | none =>
      rw [found] at loads
      cases registered : database.catalog.file page.table with
      | error fault =>
          rw [registered] at loads
          cases loads
      | ok file =>
          rw [registered] at loads
          dsimp only [bind, Except.bind] at loads
          cases read : file.readPage database.volume page with
          | error fault =>
              rw [read] at loads
              cases loads
          | ok old =>
              rw [read] at loads
              dsimp only at loads
              cases installs : database.pool.installNew old with
              | error fault =>
                  rw [installs] at loads
                  cases loads
              | ok answer =>
                  rw [installs] at loads
                  cases loads
                  have onDisk := diskPage?_eq_some.mpr ⟨file, registered, read⟩
                  obtain rfl := (wellFormed_of_diskPage? onDisk).2.1
                  exact ⟨path_installNew sound found onDisk installs, resident⟩

/-! ### Under a lock -/

/-- The page of the task is loaded, and noted before if it is to be changed. -/
theorem path_reach (task : Task) (steady : database.Steady)
    {transaction : TransactionId} {page : PageId} {access : Access}
    (request : task.request = ⟨transaction, page, access.mode⟩)
    (permits : database.pool.locks.Permits task.request) :
    Path (fun _ => task.Readies) database (database.noteAccess transaction page access) ∧
      ∀ loaded frame content,
        (database.noteAccess transaction page access).load page = .ok (loaded, frame, content) →
          Path (fun _ => task.Readies) database loaded ∧
            loaded.pool.residentFrame? page = some (frame, content) := by
  have noted : Path (fun _ => task.Readies) database
      (database.noteAccess transaction page access) := by
    cases access with
    | read => exact .here _
    | write =>
        obtain ⟨held, mode, covers⟩ := permits
        rw [request] at mode covers
        rw [covers rfl] at mode
        have readies : task.Readies (.note transaction page) := by
          have own : task.Readies (.note task.request.transaction task.request.page) :=
            .note (by rw [request]; rfl)
          rwa [request] at own
        exact .single (.note mode) readies
  refine ⟨noted, ?_⟩
  intro loaded frame content loads
  obtain ⟨path, found⟩ := path_load (noted.steady steady).sound loads
  refine ⟨noted.trans (path.mono ?_), found⟩
  intro database move fetches
  have own : task.request.page = page := by rw [request]
  rw [← own] at fetches
  exact .fetch fetches

theorem Steady.noteAccess (steady : database.Steady) (transaction : TransactionId)
    (page : PageId) (access : Access) : (database.noteAccess transaction page access).Steady := by
  cases access with
  | read => exact steady
  | write => exact ⟨steady.catalog, steady.exclusive, steady.sound, steady.frames⟩

private theorem noted_of_load (steady : database.Steady) {loaded : Database}
    {transaction : TransactionId} {page : PageId} {frame : Nat} {content : Page}
    (loads : (database.noteAccess transaction page .write).load page =
      .ok (loaded, frame, content)) :
    page ∈ loaded.pool.writtenBy transaction := by
  have noted := steady.noteAccess transaction page .write
  apply (path_load noted.sound loads).1.keeps
    (fun database => page ∈ database.pool.writtenBy transaction) noted
  · intro database next move _ member fetches moves
    apply moves.keeps_writtenBy ?_ member
    intro forgets
    subst forgets
    cases fetches
  · exact Pool.mem_writtenBy_noteWrite.mpr (.inl ⟨rfl, rfl⟩)

private theorem path_change (task : Task) (call : PageEdit) (steady : database.Steady)
    {transaction : TransactionId} {page : PageId} {frame : Nat} {content changed : Page}
    (request : task.request = ⟨transaction, page, .exclusive⟩)
    (alone : database.pool.locks.lockMode? transaction page = some .exclusive)
    (found : database.pool.residentFrame? page = some (frame, content)) (typed : call.Typed)
    (calls : content.edit call = changed) (handover : Handover) :
    database.Moves (.edit frame [call, .mark (some transaction)])
        (database.setFrame frame (changed.mark (some transaction))) ∧
      (Progress.handOver (database.setFrame frame (changed.mark (some transaction))) transaction
          frame (changed.mark (some transaction)) handover).2 = .ok () ∧
        Path (fun _ => task.Readies) (database.setFrame frame (changed.mark (some transaction)))
          (Progress.handOver (database.setFrame frame (changed.mark (some transaction)))
            transaction frame (changed.mark (some transaction)) handover).1 := by
  have typedEach : ∀ edit ∈ [call, .mark (some transaction)], edit.Typed := by
    intro edit member
    simp only [List.mem_cons, List.not_mem_nil, or_false] at member
    rcases member with rfl | rfl
    · exact typed
    · trivial
  have moves := Moves.edit (Pool.residentFrame?_eq_some.mp found).2 typedEach
  have marked : content.editEach [call, .mark (some transaction)] =
      changed.mark (some transaction) := congrArg (fun page => page.mark (some transaction)) calls
  have resident := moves.residentFrame?_edit steady found
  rw [marked] at resident moves
  refine ⟨moves, ?_⟩
  have id : (changed.mark (some transaction)).id = page :=
    (moves.steady steady).sound.id_eq resident
  cases handover with
  | toCaller => exact ⟨rfl, .here _⟩
  | toPool =>
      have absorbs := absorb_of_resident resident id rfl
      unfold Progress.handOver
      dsimp only
      rw [absorbs]
      refine ⟨rfl, .single (.note alone) ?_⟩
      have notes : task.Readies (.note task.request.transaction task.request.page) :=
        .note (by rw [request])
      rwa [request] at notes

variable {task : Task} {progress : Progress}

private theorem path_advance (insertion : Insertion) (tried : Nat)
    (own : task.file? = some insertion.file) :
    Path (fun _ => task.Readies) database (insertion.advance database tried).1 := by
  unfold Insertion.advance
  dsimp only
  split
  · exact .here _
  · exact .single (.grow insertion.file) (.grow own)

private theorem path_skip (insertion : Insertion) (own : task.file? = some insertion.file) :
    Path (fun _ => task.Readies) database (insertion.skip database).1 := by
  unfold Insertion.skip
  split
  · exact .here _
  · exact path_advance insertion insertion.limit own

/-- What a task comes to by its moves. What is left of it is about the same file, and is done for
the same transaction. -/
structure Works (database : Database) (task : Task) (next : Database × Progress) : Prop where
  alters : database.Alters task next
  goesOn : ∀ rest, next.2 = .waiting rest →
    rest.Plain ∧ rest.transaction = task.transaction ∧ rest.file? = task.file?

theorem Works.path {next : Database × Progress} (works : database.Works task next) :
    Path (task.Makes next.2) database next.1 :=
  works.alters.path

private theorem works_of_finished {next : Database} {outcome : Outcome}
    (alters : database.Alters task (next, .finished outcome)) :
    database.Works task (next, .finished outcome) := by
  refine ⟨alters, ?_⟩
  intro rest impossible
  cases impossible

private theorem works_of_idle {next : Database} {outcome : Outcome}
    (path : Path (fun _ => task.Readies) database next) (idle : task.change? outcome = none) :
    database.Works task (next, .finished outcome) :=
  works_of_finished (.none path (congrArg Option.toList idle))

private theorem works_fetch (steady : database.Steady) (transaction : TransactionId) (page : PageId)
    (access : Access)
    (permits : database.pool.locks.Permits (Task.fetching transaction page access).request) :
    database.Works (.fetching transaction page access)
      (Progress.fetch database transaction page access) := by
  obtain ⟨noted, reaches⟩ := path_reach (.fetching transaction page access) steady rfl permits
  unfold Progress.fetch
  dsimp only
  cases loads : (database.noteAccess transaction page access).load page with
  | error fault => exact works_of_idle noted rfl
  | ok reached =>
      obtain ⟨loaded, frame, content⟩ := reached
      exact works_of_idle (reaches loaded frame content loads).1 rfl

/-- Whoever fetched a page was given the frame that the page is in, and means to write the page if
that was the purpose. -/
theorem found_of_fetched (steady : database.Steady) {fetched : Database}
    {transaction : TransactionId} {page : PageId} {access : Access} {frame : Nat} {content : Page}
    (fetches : Progress.fetch database transaction page access =
      (fetched, .finished (.fetched frame content))) :
    fetched.pool.residentFrame? page = some (frame, content) ∧
      (access = .write → page ∈ fetched.pool.writtenBy transaction) := by
  unfold Progress.fetch at fetches
  dsimp only at fetches
  cases loads : (database.noteAccess transaction page access).load page with
  | error fault =>
      rw [loads] at fetches
      cases fetches
  | ok reached =>
      rw [loads] at fetches
      cases fetches
      refine ⟨(path_load (steady.noteAccess transaction page access).sound loads).2, ?_⟩
      intro writes
      subst writes
      exact noted_of_load steady loads

/-- A page was tried. If it took the row, the page as it was before is still to be told from the
changed one. -/
private inductive Trying (database : Database) (task : Task) (insertion : Insertion) :
    Database × Trial → Prop where
  | failed {next : Database} (path : Path (fun _ => task.Readies) database next)
      (fault : Fault) : Trying database task insertion (next, .failed fault)
  | noRoom {next : Database} {rest : Insertion}
      (path : Path (fun _ => task.Readies) database next)
      (carries : rest.Carries insertion) : Trying database task insertion (next, .noRoom rest)
  | stored {loaded : Database} {frame : Nat} {content changed : Page} {row : Row}
      (path : Path (fun _ => task.Readies) database loaded)
      (noted : insertion.page ∈ loaded.pool.writtenBy insertion.transaction)
      (found : loaded.pool.residentFrame? insertion.page = some (frame, content))
      (inserts : content.insert insertion.row = .ok (changed, row)) :
      Trying database task insertion
        (loaded.setFrame frame (changed.mark (some insertion.transaction)),
          .stored row frame (changed.mark (some insertion.transaction)))

private theorem trying_tryPage (steady : database.Steady) {insertion : Insertion}
    {handover : Handover}
    (permits : database.pool.locks.Permits (Task.inserting insertion handover).request) :
    database.Trying (.inserting insertion handover) insertion (insertion.tryPage database) := by
  have request : (Task.inserting insertion handover).request =
      ⟨insertion.transaction, insertion.page, Access.write.mode⟩ := rfl
  obtain ⟨noted, reaches⟩ := path_reach _ steady request permits
  unfold Insertion.tryPage
  dsimp only
  cases loads : (database.noteAccess insertion.transaction insertion.page .write).load
      insertion.page with
  | error fault => exact .failed noted fault
  | ok reached =>
      obtain ⟨loaded, frame, content⟩ := reached
      obtain ⟨path, found⟩ := reaches loaded frame content loads
      dsimp only
      split
      · exact .noRoom (path.trans (path_skip insertion rfl))
          (Insertion.carries_skip (Prod.eta (insertion.skip loaded)).symm)
      · cases inserts : content.insert insertion.row with
        | error fault => exact .failed path fault
        | ok inserted =>
            obtain ⟨changed, row⟩ := inserted
            exact .stored path (noted_of_load steady loads) found inserts

private theorem works_insert (steady : database.Steady) {insertion : Insertion}
    {handover : Handover} (typed : insertion.row.Typed)
    (permits : database.pool.locks.Permits (Task.inserting insertion handover).request) :
    database.Works (.inserting insertion handover)
      (Progress.insert database insertion handover) := by
  have tries := trying_tryPage steady permits
  unfold Progress.insert
  generalize insertion.tryPage database = trial at tries
  cases tries with
  | failed path fault => exact works_of_idle path rfl
  | @noRoom next rest path carries =>
      refine ⟨.none path rfl, ?_⟩
      intro task same
      cases same
      refine ⟨?_, carries.transaction, congrArg some carries.file⟩
      unfold Task.Plain
      dsimp only
      rw [carries.row]
      exact typed
  | @stored loaded frame content changed row readies noted found inserts =>
      dsimp only
      have path := Task.Readies.path readies (.waiting (.inserting insertion handover))
      have steadyThen := path.steady steady
      obtain ⟨held, mode, covers⟩ := permits
      rw [← Task.Makes.locks path, covers rfl] at mode
      have calls : content.edit (.insert insertion.row) = changed := by
        unfold Page.edit
        dsimp only
        rw [inserts]
      obtain ⟨moves, hands, rest⟩ := path_change (.inserting insertion handover)
        (.insert insertion.row) steadyThen rfl mode found typed calls handover
      have wellFormed := (steadyThen.frames frame content (Pool.residentFrame?_eq_some.mp found).2).2
      obtain ⟨record, recorded, takes⟩ := wellFormed.takes_insert typed inserts
      rw [← calls] at takes
      cases handed : Progress.handOver
          (loaded.setFrame frame (changed.mark (some insertion.transaction)))
          insertion.transaction frame (changed.mark (some insertion.transaction)) handover with
      | mk next result =>
          rw [handed] at hands rest
          cases hands
          refine works_of_finished (.one readies rfl found noted mode ?_ moves takes rest ?_)
          · unfold Page.gains
            dsimp only
            rw [inserts]
            exact fun _ member => member
          · unfold Task.changes Task.change?
            dsimp only
            rw [recorded]
            rfl

private theorem works_delete (steady : database.Steady) {transaction : TransactionId} {row : Row}
    {page : PageId} {handover : Handover}
    (permits : database.pool.locks.Permits (Task.deleting transaction row page handover).request) :
    database.Works (.deleting transaction row page handover)
      (Progress.delete database transaction row page handover) := by
  have request : (Task.deleting transaction row page handover).request =
      ⟨transaction, page, Access.write.mode⟩ := rfl
  obtain ⟨noted, reaches⟩ := path_reach _ steady request permits
  unfold Progress.delete
  dsimp only
  cases loads : (database.noteAccess transaction page .write).load page with
  | error fault => exact works_of_idle noted rfl
  | ok reached =>
      obtain ⟨loaded, frame, content⟩ := reached
      obtain ⟨readies, found⟩ := reaches loaded frame content loads
      dsimp only
      cases deletes : content.delete row with
      | error fault => exact works_of_idle readies rfl
      | ok changed =>
          have path := Task.Readies.path readies (.finished .locked)
          have steadyThen := path.steady steady
          obtain ⟨held, mode, covers⟩ := permits
          rw [← Task.Makes.locks path, covers rfl] at mode
          have calls : content.edit (.delete row) = changed := by
            unfold Page.edit
            dsimp only
            rw [deletes]
            rfl
          obtain ⟨moves, hands, rest⟩ := path_change (.deleting transaction row page handover)
            (.delete row) steadyThen rfl mode found trivial calls handover
          have wellFormed :=
            (steadyThen.frames frame content (Pool.residentFrame?_eq_some.mp found).2).2
          obtain ⟨record, recorded, takes⟩ := wellFormed.takes_delete deletes
          rw [← calls] at takes
          dsimp only
          cases handed : Progress.handOver (loaded.setFrame frame (changed.mark (some transaction)))
              transaction frame (changed.mark (some transaction)) handover with
          | mk next result =>
              rw [handed] at hands rest
              cases hands
              refine works_of_finished (.one readies rfl found (noted_of_load steady loads) mode
                (fun _ impossible => absurd impossible List.not_mem_nil) moves takes rest ?_)
              unfold Task.changes Task.change?
              dsimp only
              rw [recorded]
              rfl

private theorem works_scan (steady : database.Steady) (scan : Scan) (left : Nat)
    (rows : List Row) :
    database.Works (.scanning scan left rows) (Progress.scan database scan left rows) := by
  unfold Progress.scan
  cases loads : database.load scan.page with
  | error fault => exact works_of_idle (.here _) rfl
  | ok reached =>
      obtain ⟨loaded, frame, content⟩ := reached
      have readies : Path (fun _ => (Task.scanning scan left rows).Readies) database loaded :=
        (path_load steady.sound loads).1.mono (fun _ _ fetches => .fetch fetches)
      dsimp only
      obtain ⟨rest, given, _, ⟨owner, _, _⟩, ⟨ending, ends, _⟩ | ⟨more, _, goesOn⟩⟩ :=
        scanNext_cases loaded (scan.take content) left rows
      · rw [ends]
        exact works_of_idle readies rfl
      · rw [goesOn]
        refine ⟨.none readies rfl, ?_⟩
        intro task same
        cases same
        exact ⟨trivial, owner, rfl⟩

theorem works_ofTask (steady : database.Steady) {task : Task} (plain : task.Plain)
    (permits : database.pool.locks.Permits task.request) :
    database.Works task (Progress.ofTask database task) := by
  cases task with
  | locking request => exact works_of_idle (.here _) rfl
  | fetching transaction page access => exact works_fetch steady transaction page access permits
  | inserting insertion handover => exact works_insert steady plain permits
  | filling insertion table left stored last => exact plain.elim
  | deleting transaction row page handover => exact works_delete steady permits
  | scanning scan left rows => exact works_scan steady scan left rows

/-! ### Before the first lock -/

structure Starts (database : Database) (operation : Operation) (next : Database × Progress) :
    Prop where
  path : Path (fun _ move => ∃ file, move = .grow file ∧
    (operation.file? = some file ∨ ∃ table, database.catalog.file table = .ok file)) database next.1
  goesOn : ∀ task, next.2 = .waiting task → task.Plain ∧ task.transaction = operation.transaction ∧
    ∀ file, task.file? = some file →
      operation.file? = some file ∨ ∃ table, database.catalog.file table = .ok file

private theorem starts_of_finished (operation : Operation) (outcome : Outcome) :
    database.Starts operation (database, .finished outcome) := by
  refine ⟨.here _, ?_⟩
  intro task impossible
  cases impossible

private theorem starts_of_waiting {operation : Operation} {task : Task} (plain : task.Plain)
    (owner : task.transaction = operation.transaction) (pageless : task.file? = none) :
    database.Starts operation (database, .waiting task) := by
  refine ⟨.here _, ?_⟩
  intro other same
  cases same
  refine ⟨plain, owner, ?_⟩
  intro file impossible
  rw [pageless] at impossible
  cases impossible

private theorem starts_insertFile (operation : Operation) {file : TableFile} {row : Row}
    (typed : row.Typed)
    (own : operation.file? = some file ∨ ∃ table, database.catalog.file table = .ok file)
    (handover : Handover) :
    database.Starts operation
      (Progress.insertFile database operation.transaction file row handover) := by
  unfold Progress.insertFile Insertion.start
  split
  · rename_i started insertion starts
    split at starts
    · have advances := Except.ok.inj starts
      have carries := Insertion.carries_advance advances
      constructor
      · change Path _ database (started, insertion).1
        rw [← advances]
        unfold Insertion.advance
        dsimp only
        split
        · exact .here _
        · exact .single (.grow file) ⟨file, rfl, own⟩
      · intro task same
        cases same
        refine ⟨?_, carries.transaction, ?_⟩
        · unfold Task.Plain
          dsimp only
          rw [carries.row]
          exact typed
        · intro other same
          cases same
          rw [carries.file]
          exact own
    · cases starts
  · exact starts_of_finished operation _

theorem starts_ofOperation (database : Database) {operation : Operation}
    (plain : operation.Plain) :
    database.Starts operation (Progress.ofOperation database operation) := by
  cases operation with
  | lock request => exact starts_of_waiting trivial rfl rfl
  | fetch transaction page access => exact starts_of_waiting trivial rfl rfl
  | insert transaction table row =>
      unfold Progress.ofOperation Progress.insertTable
      dsimp only
      cases found : database.catalog.file table with
      | error fault => exact starts_of_finished _ _
      | ok file =>
          exact starts_insertFile (.insert transaction table row) plain (.inr ⟨table, found⟩)
            .toPool
  | insertInto transaction file row =>
      exact starts_insertFile (.insertInto transaction file row) plain (.inl rfl) .toCaller
  | fill transaction table row copies => exact plain.elim
  | delete transaction row =>
      unfold Progress.ofOperation Progress.deleteTable Progress.deleteFile
      dsimp only
      cases row.record with
      | none => exact starts_of_finished _ _
      | some record =>
          dsimp only
          cases database.catalog.file record.page.table with
          | error fault => exact starts_of_finished _ _
          | ok file =>
              dsimp only
              split
              · exact starts_of_waiting trivial rfl rfl
              · exact starts_of_finished _ _
  | deleteFrom transaction file row =>
      unfold Progress.ofOperation Progress.deleteFile
      dsimp only
      cases row.record with
      | none => exact starts_of_finished _ _
      | some record =>
          dsimp only
          split
          · exact starts_of_waiting trivial rfl rfl
          · exact starts_of_finished _ _
  | scan scan count =>
      unfold Progress.ofOperation
      dsimp only
      obtain ⟨rest, given, _, ⟨owner, _, _⟩, ⟨ending, ends, _⟩ | ⟨more, _, goesOn⟩⟩ :=
        scanNext_cases database scan count []
      · rw [ends]
        exact starts_of_finished _ _
      · rw [goesOn]
        exact starts_of_waiting trivial owner rfl

end

end Database

end RowStore
