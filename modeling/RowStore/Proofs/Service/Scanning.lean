import RowStore.Proofs.Database.Samples
import RowStore.Proofs.Engine.FullScan
import RowStore.Proofs.Engine.Reading
import RowStore.Proofs.Service.History

/-!
Scanning: a scan takes the pages of its file one after another, each of them once, whatever is done
between its calls and in them, and however often it fails on the way, be it that a lock is refused,
that the pool has no room, or that the disk does not count the pages or does not read one.
-/

set_option autoImplicit false

namespace RowStore

/-- The scan has come through these pages of the file, one after another, and has given out these of
their rows. -/
structure Scan.Tracks (scan : Scan) (file : TableFile) (reader : TransactionId)
    (pages : List Page) (given : List Row) : Prop where
  own : scan.file = file
  mine : scan.transaction = reader
  nextPage : scan.nextPage = pages.length
  inOrder : pages.map Page.id = (List.range pages.length).map file.pageId
  wellFormed : ∀ page ∈ pages, page.WellFormed
  rows : given ++ scan.current = pages.flatMap Page.rows

namespace Scan

variable {scan rest : Scan} {file : TableFile} {reader : TransactionId} {pages : List Page}
  {given out : List Row}

theorem tracks_start (file : TableFile) (reader : TransactionId) :
    (start file reader).Tracks file reader [] [] :=
  ⟨rfl, rfl, rfl, rfl, nofun, rfl⟩

theorem Tracks.page (tracks : scan.Tracks file reader pages given) :
    scan.page = file.pageId pages.length := by
  unfold Scan.page
  rw [tracks.own, tracks.nextPage]

theorem Tracks.take (tracks : scan.Tracks file reader pages given) (drained : scan.current = [])
    {page : Page} (wellFormed : page.WellFormed) (id : page.id = scan.page) :
    (scan.take page).Tracks file reader (pages ++ [page]) given where
  own := tracks.own
  mine := tracks.mine
  nextPage := by
    change scan.nextPage + 1 = _
    rw [tracks.nextPage, List.length_append, List.length_singleton]
  inOrder := by
    rw [List.map_append, tracks.inOrder, List.length_append, List.length_singleton,
      List.range_succ, List.map_append, List.map_singleton, List.map_singleton, id, tracks.page]
  wellFormed := by
    intro member listed
    rcases List.mem_append.mp listed with before | last
    · exact tracks.wellFormed member before
    · rw [List.mem_singleton.mp last]
      exact wellFormed
  rows := by
    have rows := tracks.rows
    rw [drained, List.append_nil] at rows
    rw [List.flatMap_append, List.flatMap_singleton, ← rows]
    rfl

theorem Tracks.give (tracks : scan.Tracks file reader pages given)
    (whole : out ++ rest.current = scan.current)
    (kept : rest.transaction = scan.transaction ∧ rest.file = scan.file ∧
      rest.nextPage = scan.nextPage) : rest.Tracks file reader pages (given ++ out) where
  own := kept.2.1.trans tracks.own
  mine := kept.1.trans tracks.mine
  nextPage := kept.2.2.trans tracks.nextPage
  inOrder := tracks.inOrder
  wellFormed := tracks.wellFormed
  rows := by
    rw [List.append_assoc, whole]
    exact tracks.rows

theorem Tracks.ordered (tracks : scan.Tracks file reader pages given) :
    given.Pairwise Row.Precedes := by
  have ascending : (pages.map Page.id).Pairwise (fun before page => ∀ first second,
      compare (⟨before, first⟩ : RecordId) ⟨page, second⟩ = .lt) := by
    rw [tracks.inOrder, List.pairwise_map]
    exact List.pairwise_lt_range.imp (RecordId.compare_of_number_lt file.id)
  have whole : (pages.flatMap Page.rows).Pairwise Row.Precedes := by
    refine List.pairwise_flatMap.mpr ⟨fun page listed =>
      (tracks.wellFormed page listed).rows_ordered, ?_⟩
    refine (List.pairwise_map.mp ascending).imp_of_mem ?_
    intro before page listedBefore listed apart first memberFirst second memberSecond
    obtain ⟨_, foundFirst⟩ := Page.mem_rows.mp memberFirst
    obtain ⟨_, foundSecond⟩ := Page.mem_rows.mp memberSecond
    exact ⟨_, _, ((tracks.wellFormed before listedBefore).rows _ _ foundFirst).2.2,
      ((tracks.wellFormed page listed).rows _ _ foundSecond).2.2, apart _ _⟩
  rw [← tracks.rows] at whole
  exact (List.pairwise_append.mp whole).1

/-- A scan that has no rows left asks for its next page, if the file has that. -/
theorem Tracks.asks (tracks : scan.Tracks file reader pages given) (drained : scan.current = [])
    {database : Database} (inside : pages.length < file.pageCount database.volume) (count : Nat) :
    ∃ task, Progress.ofOperation database (.scan scan (count + 1)) = (database, .waiting task) ∧
      task.request = ⟨reader, file.pageId pages.length, .shared⟩ := by
  have few : scan.current.length < count + 1 := by
    rw [drained]
    exact Nat.succ_pos count
  have next := Progress.scanNext_of_lt database [] few
  rw [tracks.own, tracks.nextPage, if_neg (Nat.not_le.mpr inside)] at next
  refine ⟨_, next, ?_⟩
  rw [← tracks.mine]
  rfl

end Scan

theorem Database.Steady.wellFormed_of_load {database loaded : Database} (steady : database.Steady)
    {page : PageId} {frame : Nat} {content : Page}
    (loads : database.load page = .ok (loaded, frame, content)) :
    content.WellFormed ∧ content.id = page := by
  obtain ⟨_, _, _, resident | ⟨_, onDisk⟩⟩ := Database.load_cases steady.sound loads
  · obtain ⟨_, held⟩ := Pool.residentFrame?_eq_some.mp resident
    exact ⟨(steady.frames frame content held).2, steady.sound.id_eq resident⟩
  · obtain ⟨wellFormed, id, _⟩ := Database.wellFormed_of_diskPage? onDisk
    exact ⟨wellFormed, id⟩

theorem Progress.scanNext_ne_failed {database : Database} {scan rest : Scan} {left : Nat}
    {rows out : List Row} {fault : Fault} :
    (scanNext database scan left rows).2 ≠
      .finished (.scanned rest out (some (.failed fault))) := by
  unfold scanNext
  dsimp only
  split
  · nofun
  · split
    · nofun
    · nofun

namespace Engine

section

variable {engine : Engine} {ticket : Nat} {scan : Scan} {left : Nat} {rows : List Row}

/-- The page that a scan takes in a turn under the ticket: the one that it comes to, if it is granted
the lock and the page can be had. -/
def takenIn? (engine : Engine) (ticket : Nat) : Option Page :=
  match engine.tasks[ticket]? with
  | some (.scanning scan left rows) =>
      match (engine.database.pool.locks.acquire ticket
          (Task.scanning scan left rows).request).2,
        (engine.checked ticket (.scanning scan left rows)).load scan.page with
      | .granted, .ok (_, _, content) => some content
      | _, _ => none
  | _ => none

def takenBefore? (engine : Engine) (ticket : Nat) : Refusal → Option Page
  | .reading => none
  | _ => engine.takenIn? ticket

/-- What is under a ticket changes only when an operation begins or takes its turn there. -/
theorem Proper.tasks_serve {task : Task} {action : DatabaseAction} (proper : engine.Proper action)
    (found : engine.tasks[ticket]? = some task) (other : action ≠ .perform (.turn ticket)) :
    (engine.serve action).tasks[ticket]? = some task := by
  cases action with
  | perform action =>
      refine (tasks_perform_of_apart ?_ (fun same => other (congrArg _ same))).trans found
      rintro operation rfl
      cases found.symm.trans proper.1
  | edit frame call =>
      unfold Engine.serve
      dsimp only
      split
      · exact found
      · exact found
  | openFile path opening schema pageSize =>
      unfold Engine.serve
      dsimp only
      split
      · exact found
      · exact found
  | register file name =>
      unfold Engine.serve
      dsimp only
      split
      · exact found
      · exact found
  | _ => exact found

/-- Why a task does not get its page: the lock is refused, or it is granted and the page cannot be
had. -/
inductive Denies (engine : Engine) (ticket : Nat) (task : Task) (fault : Fault) : Prop where
  | lock (refused : (engine.database.pool.locks.acquire ticket task.request).2 = .refused fault)
  | page (granted : (engine.database.pool.locks.acquire ticket task.request).2 = .granted)
      (absent : (engine.checked ticket task).load task.request.page = .error fault)

inductive ScansOn (engine : Engine) (ticket : Nat) (scan : Scan) (left : Nat) (rows : List Row) :
    Prop where
  | asleep (none : engine.takenIn? ticket = none) (sleeps : (engine.turn ticket).2 = .asleep)
      (tasks : (engine.turn ticket).1.tasks = engine.tasks)
  | failed (none : engine.takenIn? ticket = none) (fault : Fault)
      (denies : engine.Denies ticket (.scanning scan left rows) fault)
      (fails : (engine.turn ticket).2 = .finished (.scanned scan rows (some (.failed fault))))
  | took (loaded : Database) (page : Page) (takes : engine.takenIn? ticket = some page)
      (wellFormed : page.WellFormed) (id : page.id = scan.page)
      (comes : engine.turn ticket = engine.note ticket
        (Progress.scanNext loaded (scan.take page) left rows).1
        (Progress.scanNext loaded (scan.take page) left rows).2)

theorem Grounded.scansOn (grounded : engine.Grounded)
    (found : engine.tasks[ticket]? = some (.scanning scan left rows)) :
    engine.ScansOn ticket scan left rows := by
  have turns := turn_of_task found
  have takes : engine.takenIn? ticket =
      match (engine.database.pool.locks.acquire ticket (Task.scanning scan left rows).request).2,
        (engine.checked ticket (.scanning scan left rows)).load scan.page with
      | .granted, .ok (_, _, content) => some content
      | _, _ => none := by
    unfold takenIn?
    rw [found]
  cases verdict : (engine.database.pool.locks.acquire ticket
      (Task.scanning scan left rows).request).2 with
  | asleep =>
      rw [verdict] at turns takes
      refine .asleep takes ?_ ?_
      · rw [turns]
      · rw [turns]
        rfl
  | refused fault =>
      rw [verdict] at turns takes
      refine .failed takes fault (.lock verdict) ?_
      rw [turns]
      rfl
  | granted =>
      rw [verdict] at turns takes
      have steady := grounded.checked ticket (.scanning scan left rows)
      change engine.turn ticket = engine.note ticket (Progress.scan _ scan left rows).1
        (Progress.scan _ scan left rows).2 at turns
      unfold Progress.scan at turns
      cases loads : (engine.checked ticket (.scanning scan left rows)).load scan.page with
      | error fault =>
          rw [loads] at turns takes
          refine .failed takes fault (.page verdict loads) ?_
          rw [turns]
          rfl
      | ok answer =>
          obtain ⟨loaded, frame, content⟩ := answer
          rw [loads] at turns takes
          obtain ⟨wellFormed, id⟩ := steady.wellFormed_of_load loads
          exact .took loaded content takes wellFormed id turns

/-- What a turn of a scan comes to in which the disk refuses something: the page is not read, or it is
taken and all its rows are given out, and the pages behind it are not counted. -/
inductive ScansUpTo (engine : Engine) (ticket : Nat) (scan : Scan) (rows : List Row)
    (cause : DiskCause) (outcome : Outcome) : Refusal → Prop where
  | unread (granted : (engine.database.pool.locks.acquire ticket
        ⟨scan.transaction, scan.page, .shared⟩).2 = .granted)
      (fails : outcome = .scanned scan rows (some (.failed (.disk cause)))) :
      ScansUpTo engine ticket scan rows cause outcome .reading
  | uncounted (page : Page) (takes : engine.takenIn? ticket = some page)
      (wellFormed : page.WellFormed) (id : page.id = scan.page)
      (fails : outcome = .scanned { scan.take page with current := [] } (rows ++ page.rows)
        (some (.failed (.disk cause)))) :
      ScansUpTo engine ticket scan rows cause outcome .counting

theorem Grounded.scansUpTo (grounded : engine.Grounded)
    (found : engine.tasks[ticket]? = some (.scanning scan left rows)) {refusal : Refusal}
    {cause : DiskCause} {next : Engine} {outcome : Outcome}
    (refuses : engine.turnRefused? ticket refusal cause = some (next, outcome)) :
    engine.ScansUpTo ticket scan rows cause outcome refusal := by
  obtain ⟨task, reached, foundAgain, granted, comes, _⟩ := Service.turnRefused?_eq_some refuses
  cases found.symm.trans foundAgain
  have steady := grounded.checked ticket (.scanning scan left rows)
  have behind (other : Refusal) (apart : other ≠ .reading)
      (comes : Progress.ofTaskRefused? (engine.checked ticket (.scanning scan left rows)) other cause
        (.scanning scan left rows) = some (reached, outcome)) :
      engine.ScansUpTo ticket scan rows cause outcome other := by
    cases loads : (engine.checked ticket (.scanning scan left rows)).load scan.page with
    | error fault =>
        simp [Progress.ofTaskRefused?, Progress.loadRefused?, Task.request, loads] at comes
    | ok answer =>
        obtain ⟨loaded, frame, content⟩ := answer
        have refusesThen : Progress.scanRefused? loaded other cause (scan.take content) left rows =
            some (reached, outcome) := by
          cases other with
          | reading => exact absurd rfl apart
          | _ => simpa [Progress.ofTaskRefused?, Progress.loadRefused?, Task.request, loads] using comes
        obtain ⟨_, _, rfl, fails⟩ := Progress.scanRefused?_eq_some refusesThen
        obtain ⟨wellFormed, id⟩ := steady.wellFormed_of_load loads
        refine .uncounted content ?_ wellFormed id fails
        unfold takenIn?
        rw [found]
        dsimp only
        rw [granted, loads]
  cases refusal with
  | reading =>
      refine .unread granted ?_
      unfold Progress.ofTaskRefused? Progress.loadRefused? at comes
      dsimp only at comes
      split at comes
      · cases comes
        rfl
      · cases comes
  | counting => exact behind .counting nofun comes
  | adding written => exact behind (.adding written) nofun comes

end

end Engine

namespace Service

/-! ### Calls of a scan -/

/-- The action is a turn of the operation under the ticket, be it that the disk refuses something
in it. -/
def Turns (service : Service) (ticket : Nat) : ServiceAction → Prop
  | .serve (.perform (.turn own)) => own = ticket
  | .turnRefused own refusal cause =>
      own = ticket ∧ (service.engine.turnRefused? own refusal cause).isSome
  | _ => False

/-- The operation under the ticket finishes in the last of the actions, and not before. The pages are
those that a scan takes on the way. -/
inductive Finds (ticket : Nat) (outcome : Outcome) :
    Service → List ServiceAction → List Page → Prop where
  | last {service : Service} (finishes : (service.engine.turn ticket).2 = .finished outcome) :
      Finds ticket outcome service [.serve (.perform (.turn ticket))]
        (service.engine.takenIn? ticket).toList
  | refused {service : Service} {refusal : Refusal} {cause : DiskCause} {next : Engine}
      (refuses : service.engine.turnRefused? ticket refusal cause = some (next, outcome)) :
      Finds ticket outcome service [.turnRefused ticket refusal cause]
        (service.engine.takenBefore? ticket refusal).toList
  | turn {service : Service} {rest : List ServiceAction} {pages : List Page}
      (goesOn : ∀ other, (service.engine.turn ticket).2 ≠ .finished other)
      (finds : Finds ticket outcome (service.serve (.serve (.perform (.turn ticket)))) rest pages) :
      Finds ticket outcome service (.serve (.perform (.turn ticket)) :: rest)
        ((service.engine.takenIn? ticket).toList ++ pages)
  | beside {service : Service} {action : ServiceAction} {rest : List ServiceAction}
      {pages : List Page} (other : ¬service.Turns ticket action)
      (finds : Finds ticket outcome (service.serve action) rest pages) :
      Finds ticket outcome service (action :: rest) pages

inductive CallFinds (operation : Operation) (outcome : Outcome) (service : Service) :
    List ServiceAction → List Page → Prop where
  | atOnce (ticket : Nat) (begins : (service.engine.begin ticket operation).2 = .finished outcome) :
      CallFinds operation outcome service [.serve (.perform (.begin ticket operation))] []
  | refused {ticket : Nat} {refusal : Refusal} {cause : DiskCause} {next : Engine}
      (refuses : service.engine.beginRefused? ticket operation refusal cause =
        some (next, outcome)) :
      CallFinds operation outcome service [.beginRefused ticket operation refusal cause] []
  | inTurns (ticket : Nat) {actions : List ServiceAction} {pages : List Page}
      (begins : (service.engine.begin ticket operation).2 = .underWay)
      (finds : Finds ticket outcome (service.serve (.serve (.perform (.begin ticket operation))))
        actions pages) :
      CallFinds operation outcome service (.serve (.perform (.begin ticket operation)) :: actions)
        pages

/-- Calls of a scan that begins with the first page, up to one that has just returned. Each of them
goes on with the scan as the one before left it, also if that one failed, and anything is done
between and beside them. -/
inductive Scans (service : Service) (file : TableFile) (reader : TransactionId) :
    List ServiceAction → List Page → List Row → Scan → Option ScanEnd → Prop where
  | fresh : Scans service file reader [] [] [] (Scan.start file reader) none
  | call (between : List ServiceAction) {actions calls : List ServiceAction}
      {pages more : List Page} {given rows : List Row} {scan rest : Scan}
      {before ending : Option ScanEnd} {count : Nat}
      (scans : Scans service file reader actions pages given scan before)
      (finds : CallFinds (.scan scan count) (.scanned rest rows ending)
        (service.serveEach (actions ++ between)) calls more) :
      Scans service file reader (actions ++ between ++ calls) (pages ++ more) (given ++ rows) rest
        ending

/-- How a call fails that needs this lock next: the lock is refused, or the page cannot be had, or
the disk does not read it. Or the disk does not count the pages, and the lock is not asked for. -/
inductive Stops (service : Service) (request : LockRequest) : Fault → ServiceAction → Prop where
  | denied {ticket : Nat} {task : Task} {fault : Fault}
      (found : service.engine.tasks[ticket]? = some task) (asks : task.request = request)
      (denies : service.engine.Denies ticket task fault) :
      Stops service request fault (.serve (.perform (.turn ticket)))
  | unread {ticket : Nat} {task : Task} {cause : DiskCause}
      (found : service.engine.tasks[ticket]? = some task) (asks : task.request = request)
      (granted : (service.database.pool.locks.acquire ticket request).2 = .granted) :
      Stops service request (.disk cause) (.turnRefused ticket .reading cause)
  | uncounted (ticket : Nat) (operation : Operation) (cause : DiskCause) :
      Stops service request (.disk cause) (.beginRefused ticket operation .counting cause)
  | uncountedBehind (ticket : Nat) (cause : DiskCause) :
      Stops service request (.disk cause) (.turnRefused ticket .counting cause)

section

variable {service : Service} {ticket : Nat} {scan rest : Scan} {file : TableFile}
  {reader : TransactionId} {actions : List ServiceAction} {pages taken : List Page}
  {given rows out : List Row} {left : Nat} {ending : Option ScanEnd}

/-- What is under a ticket changes only when an operation begins or takes its turn there. -/
private theorem Proper.tasks_serve {task : Task} {action : ServiceAction}
    (proper : service.Proper action) (found : service.engine.tasks[ticket]? = some task)
    (other : ¬service.Turns ticket action) :
    (service.serve action).engine.tasks[ticket]? = some task := by
  have apart {own : Nat} (different : ticket ≠ own) (database : Database) (outcome : Outcome) :
      (service.engine.note own database (.finished outcome)).1.tasks[ticket]? = some task := by
    rw [Engine.tasks_note, if_neg different]
    exact found
  cases action with
  | serve plain =>
      refine (proper.plain plain rfl).1.tasks_serve found ?_
      rintro rfl
      exact other rfl
  | beginRefused own operation refusal cause =>
      unfold Service.serve
      dsimp only
      cases refuses : service.engine.beginRefused? own operation refusal cause with
      | none => exact found
      | some answer =>
          obtain ⟨_, _, same⟩ := beginRefused?_eq_some refuses
          change answer.1.tasks[ticket]? = some task
          rw [same]
          refine apart ?_ _ _
          rintro rfl
          cases found.symm.trans (proper.plain _ rfl).1.1
  | turnRefused own refusal cause =>
      unfold Service.serve
      dsimp only
      cases refuses : service.engine.turnRefused? own refusal cause with
      | none => exact found
      | some answer =>
          obtain ⟨_, _, _, _, _, same⟩ := turnRefused?_eq_some refuses
          change answer.1.tasks[ticket]? = some task
          rw [same]
          refine apart ?_ _ _
          rintro rfl
          exact other ⟨rfl, Option.isSome_of_eq_some refuses⟩
  | step own =>
      change (service.step own).1.engine.tasks[ticket]? = some task
      cases under : service.chores[own]? with
      | none =>
          unfold step
          rw [under]
          exact found
      | some stage =>
          rw [step_of_stage under, engine_note]
          exact found
  | stepRefused own written =>
      unfold Service.serve
      dsimp only
      cases refuses : service.stepRefused? own written with
      | none => exact found
      | some next =>
          obtain ⟨_, _, _, _, _, _, _, same⟩ := stepRefused?_eq_some refuses
          rw [Option.getD_some, same (.ok ()), engine_note]
          exact found
  | _ => exact found

/-- What a call of a scan returned, on this row of actions. The scan is at its end if it has come
through all pages. If it failed, it has given out the rows of all pages that it has come through,
and the one that it did not get is the next. -/
structure Returned (service : Service) (file : TableFile) (reader : TransactionId)
    (actions : List ServiceAction) (pages : List Page) (given : List Row) (scan : Scan)
    (ending : Option ScanEnd) : Prop where
  tracks : scan.Tracks file reader pages given
  atEnd : ending = some .atEnd → scan.current = [] ∧
    file.pageCount (service.serveEach actions).database.volume ≤ scan.nextPage
  failed : ∀ fault, ending = some (.failed fault) → scan.current = [] ∧
    ∃ prior last, actions = prior ++ [last] ∧
      (service.serveEach prior).Stops ⟨scan.transaction, scan.page, .shared⟩ fault last

theorem Returned.behind (before : List ServiceAction)
    (returned : (service.serveEach before).Returned file reader actions pages given scan ending) :
    service.Returned file reader (before ++ actions) pages given scan ending := by
  refine ⟨returned.tracks, ?_, ?_⟩
  · rw [serveEach_append]
    exact returned.atEnd
  · intro fault fails
    obtain ⟨drained, prior, last, rfl, stops⟩ := returned.failed fault fails
    refine ⟨drained, before ++ prior, last, (List.append_assoc _ _ _).symm, ?_⟩
    rw [serveEach_append]
    exact stops

private theorem returned_of_stops {action : ServiceAction} {fault : Fault}
    (tracks : scan.Tracks file reader pages given) (drained : scan.current = [])
    (stops : service.Stops ⟨scan.transaction, scan.page, .shared⟩ fault action) :
    service.Returned file reader [action] pages given scan (some (.failed fault)) := by
  refine ⟨tracks, nofun, ?_⟩
  intro other same
  cases same
  exact ⟨drained, [], action, rfl, stops⟩

/-- A scan that has taken all its rows from a page, and cannot tell whether there is a page more. -/
private theorem returned_of_drained {action : ServiceAction} {fault : Fault}
    (tracks : scan.Tracks file reader pages given)
    (stops : service.Stops ⟨scan.transaction, scan.page, .shared⟩ fault action) :
    service.Returned file reader [action] pages (given ++ scan.current)
      { scan with current := [] } (some (.failed fault)) :=
  returned_of_stops (tracks.give (List.append_nil _) ⟨rfl, rfl, rfl⟩) rfl stops

/-- A scan gives out the rows that it has, and returns or goes on to the next page. -/
private theorem tracks_scanNext {database : Database} (action : ServiceAction)
    {next : Engine × Turn} (tracks : scan.Tracks file reader pages (given ++ rows))
    (comes : next = service.engine.note ticket (Progress.scanNext database scan left rows).1
      (Progress.scanNext database scan left rows).2)
    (serves : (service.serve action).engine = next.1) :
    (∃ rest out ending, next.2 = .finished (.scanned rest out ending) ∧
      service.Returned file reader [action] pages (given ++ out) rest ending) ∨
    ∃ rest more out, next.2 = .underWay ∧
      (service.serve action).engine.tasks[ticket]? = some (.scanning rest more out) ∧
      rest.current = [] ∧ rest.Tracks file reader pages (given ++ out) := by
  obtain ⟨rest, out, whole, kept, ⟨ending, finishes, ends⟩ | ⟨more, drained, waits⟩⟩ :=
    Database.scanNext_cases database scan left rows
  · have gives := tracks.give whole kept
    rw [List.append_assoc] at gives
    refine .inl ⟨rest, rows ++ out, ending, ?_, gives, ?_, ?_⟩
    · rw [comes, finishes]
      rfl
    · intro behind
      have same : (service.serveEach [action]).database = database := by
        change (service.serve action).engine.database = database
        rw [serves, comes, finishes, Engine.database_note]
      rw [same, ← gives.own]
      exact ends behind
    · rintro fault rfl
      exact absurd (congrArg Prod.snd finishes) Progress.scanNext_ne_failed
  · have gives := tracks.give whole kept
    rw [List.append_assoc] at gives
    refine .inr ⟨rest, more, rows ++ out, ?_, ?_, drained, gives⟩
    · rw [comes, waits]
      rfl
    · rw [serves, comes, waits]
      exact service.engine.tasks_note_waiting ticket database _

/-- From any moment at which the scan is under way, up to the turn that finishes the call. -/
theorem Finds.returned {outcome : Outcome} (finds : Finds ticket outcome service actions taken)
    (same : outcome = .scanned rest out ending) (grounded : service.Grounded)
    (proper : service.Along Proper actions)
    (found : service.engine.tasks[ticket]? = some (.scanning scan left rows))
    (drained : scan.current = []) (tracks : scan.Tracks file reader pages (given ++ rows)) :
    service.Returned file reader actions (pages ++ taken) (given ++ out) rest ending := by
  induction finds generalizing scan left rows pages with
  | @last service finishes =>
      rw [same] at finishes
      cases grounded.engine.scansOn found with
      | asleep none sleeps tasks => cases sleeps.symm.trans finishes
      | failed none fault denies fails =>
          cases fails.symm.trans finishes
          rw [none, Option.toList_none, List.append_nil]
          exact returned_of_stops tracks drained (.denied found rfl denies)
      | took loaded page takes wellFormed id comes =>
          rw [takes]
          rcases tracks_scanNext (.serve (.perform (.turn ticket)))
            (tracks.take drained wellFormed id) comes rfl with
            ⟨_, _, _, answers, returned⟩ | ⟨_, _, _, goesOn, _⟩
          · cases answers.symm.trans finishes
            exact returned
          · cases goesOn.symm.trans finishes
  | @refused service refusal cause next refuses =>
      subst same
      cases grounded.engine.scansUpTo found refuses with
      | unread granted fails =>
          cases fails
          rw [Engine.takenBefore?, Option.toList_none, List.append_nil]
          exact returned_of_stops tracks drained (.unread found rfl granted)
      | uncounted page takes wellFormed id fails =>
          cases fails
          rw [Engine.takenBefore?, takes, ← List.append_assoc]
          · exact returned_of_drained (tracks.take drained wellFormed id)
              (.uncountedBehind ticket cause)
          · nofun
  | @turn service actions taken goesOn finds ih =>
      apply Returned.behind [.serve (.perform (.turn ticket))]
      have onwards := (grounded.serve proper.1).2
      cases grounded.engine.scansOn found with
      | asleep none sleeps tasks =>
          rw [← tasks] at found
          rw [none]
          exact ih onwards proper.2 found drained tracks
      | failed none fault denies fails => exact absurd fails (goesOn _)
      | took loaded page takes wellFormed id comes =>
          rw [takes, Option.toList_some, ← List.append_assoc]
          rcases tracks_scanNext (.serve (.perform (.turn ticket)))
            (tracks.take drained wellFormed id) comes rfl with
            ⟨_, _, _, answers, _⟩ | ⟨_, _, _, _, under, drainedAgain, tracksOn⟩
          · exact absurd answers (goesOn _)
          · exact ih onwards proper.2 under drainedAgain tracksOn
  | @beside service action actions taken other finds ih =>
      exact (ih (grounded.serve proper.1).2 proper.2 (proper.1.tasks_serve found other) drained
        tracks).behind [action]

theorem CallFinds.returned {count : Nat}
    (finds : CallFinds (.scan scan count) (.scanned rest out ending) service actions taken)
    (grounded : service.Grounded) (proper : service.Along Proper actions)
    (tracks : scan.Tracks file reader pages given) :
    service.Returned file reader actions (pages ++ taken) (given ++ out) rest ending := by
  have nothing : scan.Tracks file reader pages (given ++ []) := by
    rw [List.append_nil]
    exact tracks
  have comes (ticket : Nat) : service.engine.begin ticket (.scan scan count) =
      service.engine.note ticket (Progress.scanNext service.database scan count []).1
        (Progress.scanNext service.database scan count []).2 := rfl
  have begun (ticket : Nat) :=
    tracks_scanNext (.serve (.perform (.begin ticket (.scan scan count)))) nothing (comes ticket) rfl
  cases finds with
  | atOnce ticket begins =>
      rw [List.append_nil]
      rcases begun ticket with ⟨_, _, _, answers, returned⟩ | ⟨_, _, _, goesOn, _⟩
      · cases answers.symm.trans begins
        exact returned
      · cases goesOn.symm.trans begins
  | @refused ticket refusal cause next refuses =>
      obtain ⟨reached, comes, _⟩ := beginRefused?_eq_some refuses
      obtain ⟨_, _, rfl, fails⟩ := Progress.scanRefused?_eq_some comes
      cases fails
      rw [List.append_nil]
      exact returned_of_drained tracks (.uncounted ticket _ cause)
  | inTurns ticket begins finds =>
      rcases begun ticket with ⟨_, _, _, answers, _⟩ | ⟨_, _, _, _, under, drained, tracksOn⟩
      · cases answers.symm.trans begins
      · exact (finds.returned rfl (grounded.serve proper.1).2 proper.2 under drained
          tracksOn).behind [.serve (.perform (.begin ticket (.scan scan count)))]

theorem Scans.returned (scans : service.Scans file reader actions pages given scan ending)
    (grounded : service.Grounded) (proper : service.Along Proper actions) :
    service.Returned file reader actions pages given scan ending := by
  induction scans with
  | fresh => exact ⟨Scan.tracks_start file reader, nofun, nofun⟩
  | call between scans finds ih =>
      obtain ⟨properBefore, properCalls⟩ := along_append.mp proper
      have before := ih (along_append.mp properBefore).1
      exact (finds.returned (grounded.serveEach properBefore) properCalls before.tracks).behind _

end

/-- What calls of a scan have come to, one after another up to one that has just returned. The scan
has come through the first pages of the file, through each of them once and in order, and has given
out the rows that they had then, but for those that it still has, by ascending record. It ends when
it has come through all pages. A call that fails loses no row, and the next one asks for the page
that this one asked for. -/
structure ReadsThrough (service : Service) (file : TableFile) (reader : TransactionId)
    (actions : List ServiceAction) (pages : List Page) (given : List Row) (scan : Scan)
    (ending : Option ScanEnd) : Prop where
  inOrder : pages.map Page.id = (List.range pages.length).map file.pageId
  recorded : ∀ page ∈ pages, ∀ slot row, page.row? slot = some row →
    row.record = some ⟨page.id, slot⟩
  rows : given ++ scan.current = pages.flatMap Page.rows
  ascending : given.Pairwise Row.Precedes
  atEnd : ending = some .atEnd → given = pages.flatMap Page.rows ∧
    file.pageCount (service.serveEach actions).database.volume ≤ pages.length
  failed : ∀ fault, ending = some (.failed fault) → given = pages.flatMap Page.rows ∧
    ∃ prior last, actions = prior ++ [last] ∧
      (service.serveEach prior).Stops ⟨reader, file.pageId pages.length, .shared⟩ fault last
  asksAgain : ∀ fault, ending = some (.failed fault) → ∀ (database : Database) count,
    pages.length < file.pageCount database.volume →
    ∃ task, Progress.ofOperation database (.scan scan (count + 1)) = (database, .waiting task) ∧
      task.request = ⟨reader, file.pageId pages.length, .shared⟩
  rewinds : scan.rewind = Scan.start file reader

/-- A scan skips nothing and repeats nothing, however often it fails, and whatever is done beside it
and between its calls. -/
theorem scan_reads_through {start : Database} (setUp : start.SetUp)
    {before actions : List ServiceAction} {service : Service} {file : TableFile}
    {reader : TransactionId} {pages : List Page} {given : List Row} {scan : Scan}
    {ending : Option ScanEnd} (proper : (new start).Along Proper (before ++ actions))
    (reached : (new start).serveEach before = service)
    (scans : service.Scans file reader actions pages given scan ending) :
    service.ReadsThrough file reader actions pages given scan ending := by
  subst reached
  obtain ⟨properBefore, properActions⟩ := along_append.mp proper
  have returned := scans.returned ((grounded_new setUp).serveEach properBefore) properActions
  have tracks := returned.tracks
  have whole (drained : scan.current = []) : given = pages.flatMap Page.rows := by
    rw [← tracks.rows, drained, List.append_nil]
  refine ⟨tracks.inOrder, fun page listed slot row found =>
    ((tracks.wellFormed page listed).rows slot row found).2.2, tracks.rows, tracks.ordered,
    ?_, ?_, ?_, ?_⟩
  · intro behind
    obtain ⟨drained, all⟩ := returned.atEnd behind
    rw [tracks.nextPage] at all
    exact ⟨whole drained, all⟩
  · intro fault fails
    obtain ⟨drained, stops⟩ := returned.failed fault fails
    rw [tracks.mine, tracks.page] at stops
    exact ⟨whole drained, stops⟩
  · intro fault fails database count inside
    exact tracks.asks (returned.failed fault fails).1 inside count
  · unfold Scan.rewind
    rw [tracks.own, tracks.mine]

/-- The only frame of the pool is in use when the scan comes to the second page, then the disk does
not count the pages, and then it does not read that one. All three calls fail, and the next one takes
that page. -/
theorem scan_reads_through_after_failures :
    let gapped : List UInt8 := 5 :: List.replicate 15 0
    let single : List UInt8 := 1 :: List.replicate 15 0
    let start : Database := Samples.stored 1 (gapped ++ single)
    let file : TableFile := Samples.rows
    let row (number slot : Nat) : Row :=
      ⟨Samples.numbers, [.int 0], some ⟨file.pageId number, slot⟩⟩
    let pages : List Page :=
      [⟨file.pageId 0, Samples.numbers, 16, [5], [some (row 0 0), none, some (row 0 2)], none⟩,
        ⟨file.pageId 1, Samples.numbers, 16, [1], [some (row 1 0), none, none], none⟩]
    let behind (current : List Row) : Scan := ⟨file, ⟨3⟩, 1, current⟩
    let begins (scan : Scan) (count : Nat) : ServiceAction :=
      .serve (.perform (.begin 0 (.scan scan count)))
    let turn (ticket : Nat) : ServiceAction := .serve (.perform (.turn ticket))
    let busy : List ServiceAction := [.serve (.release ⟨3⟩ (file.pageId 0)),
      .serve (.perform (.begin 1 (.fetch ⟨1⟩ (file.pageId 0) .write))), turn 1]
    let ending : List ServiceAction := [.call 0 (.abort ⟨1⟩), .step 0, .step 0, .step 0]
    let crowded := [begins (Scan.start file ⟨3⟩) 1, turn 0] ++ busy ++
      [begins (behind [row 0 2]) 2, turn 0]
    let uncounted := crowded ++ ending ++ [.beginRefused 0 (.scan (behind []) 2) .counting .missing]
    let unread := uncounted ++ [begins (behind []) 2, .turnRefused 0 .reading .missing]
    let actions := unread ++ [begins (behind []) 2, turn 0]
    start.SetUp ∧ (new start).Along Proper actions ∧
      (new start).Scans file ⟨3⟩ crowded (pages.take 1) [row 0 0, row 0 2] (behind [])
        (some (.failed (.poolExhausted 1))) ∧
      (new start).Scans file ⟨3⟩ uncounted (pages.take 1) [row 0 0, row 0 2] (behind [])
        (some (.failed (.disk .missing))) ∧
      (new start).Scans file ⟨3⟩ unread (pages.take 1) [row 0 0, row 0 2] (behind [])
        (some (.failed (.disk .missing))) ∧
      (new start).Scans file ⟨3⟩ actions pages [row 0 0, row 0 2, row 1 0] ⟨file, ⟨3⟩, 2, []⟩
        (some .atEnd) ∧
      (new start).ReadsThrough file ⟨3⟩ actions pages [row 0 0, row 0 2, row 1 0]
        ⟨file, ⟨3⟩, 2, []⟩ (some .atEnd) := by
  intro gapped single start file row pages behind begins turn busy ending crowded uncounted unread
    actions
  have setUp : start.SetUp := Samples.setUp_stored (by decide) _
  have proper : (new start).Along Proper actions := by decide +kernel
  have finds (taken : Option Page) {service : Service} {scan rest : Scan} {count : Nat}
      {rows : List Row} {ending : Option ScanEnd}
      (begun : (service.engine.begin 0 (.scan scan count)).2 = .underWay)
      (finishes : ((service.engine.begin 0 (.scan scan count)).1.turn 0).2 =
        .finished (.scanned rest rows ending))
      (takes : (service.engine.begin 0 (.scan scan count)).1.takenIn? 0 = taken) :
      CallFinds (.scan scan count) (.scanned rest rows ending) service [begins scan count, turn 0]
        taken.toList := by
    rw [← takes]
    exact .inTurns 0 begun (.last finishes)
  have scansFirst : (new start).Scans file ⟨3⟩ [begins (Scan.start file ⟨3⟩) 1, turn 0]
      (pages.take 1) [row 0 0] (behind [row 0 2]) none :=
    .call [] .fresh
      (finds pages[0]? (by decide +kernel) (by decide +kernel) (by decide +kernel))
  have scansCrowded : (new start).Scans file ⟨3⟩ crowded (pages.take 1) [row 0 0, row 0 2]
      (behind []) (some (.failed (.poolExhausted 1))) :=
    .call busy scansFirst
      (finds none (by decide +kernel) (by decide +kernel) (by decide +kernel))
  have refuses : ((((new start).serveEach (crowded ++ ending)).engine.beginRefused? 0
      (.scan (behind []) 2) .counting .missing).map Prod.snd) =
        some (.scanned (behind []) [] (some (.failed (.disk .missing)))) := by decide +kernel
  have scansUncounted : (new start).Scans file ⟨3⟩ uncounted (pages.take 1) [row 0 0, row 0 2]
      (behind []) (some (.failed (.disk .missing))) := by
    obtain ⟨⟨next, outcome⟩, refused, rfl⟩ := Option.map_eq_some_iff.mp refuses
    exact .call ending scansCrowded (.refused refused)
  have halts : ((((new start).serveEach (uncounted ++ [begins (behind []) 2])).engine.turnRefused? 0
      .reading .missing).map Prod.snd) =
        some (.scanned (behind []) [] (some (.failed (.disk .missing)))) := by decide +kernel
  have scansUnread : (new start).Scans file ⟨3⟩ unread (pages.take 1) [row 0 0, row 0 2]
      (behind []) (some (.failed (.disk .missing))) := by
    obtain ⟨⟨next, outcome⟩, halted, rfl⟩ := Option.map_eq_some_iff.mp halts
    rw [serveEach_append] at halted
    have underWay : (((new start).serveEach (uncounted ++ [])).engine.begin 0
        (.scan (behind []) 2)).2 = .underWay := by decide +kernel
    rw [List.append_nil] at underWay
    exact .call [] scansUncounted (.inTurns 0 underWay (.refused halted))
  have scansLast : (new start).Scans file ⟨3⟩ actions pages [row 0 0, row 0 2, row 1 0]
      ⟨file, ⟨3⟩, 2, []⟩ (some .atEnd) :=
    .call [] scansUnread
      (finds pages[1]? (by decide +kernel) (by decide +kernel) (by decide +kernel))
  have properAll : (new start).Along Proper ([] ++ actions) := proper
  exact ⟨setUp, proper, scansCrowded, scansUncounted, scansUnread, scansLast,
    scan_reads_through setUp properAll rfl scansLast⟩

end Service

end RowStore
