import RowStore.Proofs.Engine.Provenance
import RowStore.Proofs.Service.Pages

/-!
Provenance beside chores: the rows of a page that operations show are rows that were stored, or were
known before, as long as the page is not written in part. A chore writes a page as its frame has it,
so that what it found in the pool is known as well.
-/

set_option autoImplicit false

namespace RowStore

/-! ### Where the rows of a page come from -/

namespace Database

section

variable {database next : Database} {stride : Stride} {file : TableFile} {number : Nat}
  {log : List Change}

structure Records (database : Database) (file : TableFile) (number : Nat) (log : List Change) :
    Prop where
  present : (file.image? database.volume number).isSome = true
  sourced : database.Sourced file (· = number) log

theorem Records.mono {more : List Change} (records : database.Records file number log)
    (within : ∀ change ∈ log, change ∈ more) : database.Records file number more :=
  ⟨records.present, records.sourced.mono within⟩

private theorem Strides.isSome_image? (strides : database.Strides stride next)
    (steady : database.Steady) (heeds : database.Heeds file stride)
    (written : stride.WritesTo (file.pageId number) →
      (file.image? next.volume number).isSome = true)
    (present : (file.image? database.volume number).isSome = true) :
    (file.image? next.volume number).isSome = true := by
  by_cases writes : stride.WritesTo (file.pageId number)
  · exact written writes
  · obtain ⟨bytes, onDisk⟩ := Option.isSome_iff_exists.mp present
    rw [strides.image? steady heeds writes onDisk]
    rfl

private theorem Records.present_next (records : database.Records file number log)
    (strides : database.Strides stride next) (steady : database.Steady)
    (heeds : database.Heeds file stride)
    (whole : ∀ frame written, stride ≠ .tear (file.pageId number) frame written) :
    (file.image? next.volume number).isSome = true := by
  refine strides.isSome_image? steady heeds ?_ records.present
  intro writes
  cases strides with
  | @move move _ moves =>
      cases move with
      | save page =>
          cases writes
          obtain ⟨⟨content, unsaved⟩, _⟩ := moves.unsaved?_save steady
          rw [moves.image?_save (heeds.names trivial) unsaved]
          rfl
      | _ => exact writes.elim
  | @copy _ _ content other held own stale dirty registered length =>
      cases writes
      cases heeds.names trivial _ registered
      have written := TableFile.image?_put_self length database.volume number
      exact Option.isSome_iff_exists.mpr ⟨_, written⟩
  | @tear page frame content other written held own dirty registered length =>
      cases writes
      exact absurd rfl (whole frame written)
  | _ => exact writes.elim

private theorem Records.disk_unwritten (records : database.Records file number log)
    (strides : database.Strides stride next) (steady : database.Steady)
    (heeds : database.Heeds file stride) (unwritten : ¬stride.WritesTo (file.pageId number))
    {bytes : List UInt8} {content : Page}
    (onDisk : file.image? next.volume number = some bytes)
    (read : Page.decode (file.pageId number) file.schema bytes = .ok content) :
    content.Known log := by
  obtain ⟨before, onDiskBefore⟩ := Option.isSome_iff_exists.mp records.present
  cases (strides.image? steady heeds unwritten onDiskBefore).symm.trans onDisk
  exact records.sourced.disk number rfl bytes content onDiskBefore read

private theorem Records.disk_copy (records : database.Records file number log)
    {page : PageId} {frame : Nat}
    (strides : database.Strides (.copy page frame) next) (steady : database.Steady)
    (heeds : database.Heeds file (.copy page frame))
    (known : page = file.pageId number → ∀ content, database.pool.frames[frame]? = some content →
      content.schema = file.schema ∧ content.Known log) {bytes : List UInt8} {content : Page}
    (onDisk : file.image? next.volume number = some bytes)
    (read : Page.decode (file.pageId number) file.schema bytes = .ok content) :
    content.Known log := by
  by_cases same : page = file.pageId number
  · subst same
    cases strides with
    | @copy _ _ old other held own _ _ registered length =>
        cases heeds.names trivial _ registered
        have written := TableFile.image?_put_self length database.volume number
        cases written.symm.trans onDisk
        obtain ⟨schema, knownOld⟩ := known rfl old held
        have back := (steady.frames _ _ held).2.decode_encode
        rw [own, schema] at back
        cases back.symm.trans read
        exact knownOld.cut
  · exact records.disk_unwritten strides steady heeds same onDisk read

theorem Records.strides (records : database.Records file number log)
    (strides : database.Strides stride next) (steady : database.Steady)
    (heeds : database.Heeds file stride)
    (edits : ∀ frame edits content, stride = .move (.edit frame edits) →
      database.pool.residentFrame? (file.pageId number) = some (frame, content) →
        content.Known log → (content.editEach edits).Known log)
    (copies : ∀ frame, stride = .copy (file.pageId number) frame → ∀ content,
      database.pool.frames[frame]? = some content →
        content.schema = file.schema ∧ content.Known log)
    (whole : ∀ frame written, stride ≠ .tear (file.pageId number) frame written) :
    next.Records file number log := by
  have sourced := records.sourced
  have present := records.present_next strides steady heeds whole
  refine ⟨present, ?_⟩
  cases strides with
  | move moves =>
      refine sourced.moves moves steady heeds.respects ?_
      rintro frame calls other content rfl rfl found known
      exact edits frame calls content rfl found known
  | copy held own stale dirty registered length =>
      have strides := Strides.copy held own stale dirty registered length
      refine ⟨?_, ?_, .inl ?_⟩
      · intro other same place content found
        rw [strides.residentFrame? steady] at found
        exact sourced.pool other same place content found
      · rintro other rfl bytes content onDisk read
        refine records.disk_copy strides steady heeds ?_ onDisk read
        rintro rfl
        exact copies _ rfl
      · rintro other rfl
        exact present
  | tear written held own dirty registered length =>
      refine ⟨sourced.pool, ?_, .inl ?_⟩
      · rintro other rfl bytes content onDisk read
        refine records.disk_unwritten (.tear written held own dirty registered length) steady heeds
          ?_ onDisk read
        intro writes
        cases writes
        exact whole _ written rfl
      · rintro other rfl
        exact present
  | fray grown written =>
      refine ⟨sourced.pool, ?_, .inl ?_⟩
      · rintro other rfl bytes content onDisk read
        exact records.disk_unwritten (.fray grown written) steady heeds id onDisk read
      · rintro other rfl
        exact present
  | empty =>
      refine ⟨?_, sourced.disk, .inl ?_⟩
      · intro other same place content found
        rw [Strides.empty.residentFrame? steady] at found
        cases found
      · rintro other rfl
        exact present

/-! ### What refused operations show -/

/-- A scan that is refused when it has to count pages shows what it had left. -/
private theorem traced_scanRefused? {tracked : Nat → Prop} {scan : Scan} {rows : List Row}
    (traced : scan.Traced file tracked log rows) {refusal : Refusal} {cause : DiskCause}
    {left : Nat} {reached : Database} {outcome : Outcome}
    (refuses : Progress.scanRefused? database refusal cause scan left rows =
      some (reached, outcome)) : outcome.Traced file tracked log := by
  obtain ⟨_, _, _, rfl⟩ := Progress.scanRefused?_eq_some refuses
  intro own row member
  rw [List.append_assoc] at member
  rcases List.mem_append.mp member with before | given
  · exact traced own row (List.mem_append_left _ before)
  · exact traced own row (List.mem_append_right _ ((List.append_nil scan.current) ▸ given))

private theorem traced_ofOperationRefused? {tracked : Nat → Prop} {operation : Operation}
    (traced : ∀ scan count, operation = .scan scan count → scan.Traced file tracked log [])
    {refusal : Refusal} {cause : DiskCause} {reached : Database} {outcome : Outcome}
    (refuses : Progress.ofOperationRefused? database refusal cause operation =
      some (reached, outcome)) : outcome.Traced file tracked log := by
  have inserted {transaction : TransactionId} {own : TableFile} {row : Row}
      (refuses : Progress.insertRefused? database refusal cause transaction own row =
        some (reached, outcome)) : outcome.Traced file tracked log := by
    unfold Progress.insertRefused? at refuses
    split at refuses
    · obtain ⟨_, _, same⟩ := Option.map_eq_some_iff.mp refuses
      cases same
      trivial
    · cases refuses
  unfold Progress.ofOperationRefused? at refuses
  cases operation with
  | insert transaction table row =>
      dsimp only at refuses
      split at refuses
      · exact inserted refuses
      · cases refuses
  | insertInto transaction own row => exact inserted refuses
  | scan scan count => exact traced_scanRefused? (traced scan count rfl) refuses
  | _ => cases refuses

private theorem traced_ofTaskRefused? {tracked : Nat → Prop} (steady : database.Steady)
    {task : Task} (traced : task.Traced file tracked log) {refusal : Refusal} {cause : DiskCause}
    {reached : Database} {outcome : Outcome}
    (refuses : Progress.ofTaskRefused? database refusal cause task = some (reached, outcome))
    (after : reached.Steady) (sourced : reached.Sourced file tracked log) :
    outcome.Traced file tracked log := by
  -- Whoever cannot read its page, or loads it and goes on, shows what it had.
  have loading {current : Database} {onwards : Database → Page → Option (Database × Outcome)}
      (behind : ∀ loaded frame content, current.load task.request.page = .ok (loaded, frame, content) →
        onwards loaded content = some (reached, outcome) → outcome.Traced file tracked log)
      (refuses : Progress.loadRefused? current refusal cause task onwards =
        some (reached, outcome)) : outcome.Traced file tracked log := by
    unfold Progress.loadRefused? at refuses
    cases refusal with
    | reading =>
        dsimp only at refuses
        split at refuses
        · cases refuses
          exact traced.fail _
        · cases refuses
    | _ =>
        dsimp only at refuses
        split at refuses
        · rename_i loads
          exact behind _ _ _ loads refuses
        · cases refuses
  unfold Progress.ofTaskRefused? at refuses
  cases task with
  | locking request => cases refuses
  | filling insertion table left stored last => cases refuses
  | fetching transaction page access =>
      refine loading ?_ refuses
      intro _ _ _ _ impossible
      cases impossible
  | deleting transaction row page handover =>
      refine loading ?_ refuses
      intro _ _ _ _ impossible
      cases impossible
  | inserting insertion handover =>
      refine loading ?_ refuses
      intro loaded frame content _ goes
      split at goes
      · obtain ⟨_, _, same⟩ := Option.map_eq_some_iff.mp goes
        cases same
        trivial
      · cases goes
  | scanning scan left rows =>
      refine loading ?_ refuses
      intro loaded frame content loads goes
      obtain ⟨same, _⟩ := Progress.scanRefused?_eq_some goes
      subst same
      refine traced_scanRefused? ?_ goes
      obtain ⟨_, found⟩ := path_load steady.sound loads
      have id := after.sound.id_eq found
      have wellFormed := (after.frames _ _ (Pool.residentFrame?_eq_some.mp found).2).2
      intro own row member
      rcases List.mem_append.mp member with before | taken
      · exact traced own row (List.mem_append_left _ before)
      · have table : content.id.table = file.id := by
          rw [id]
          exact own
        have here : scan.page = file.pageId content.id.number := by
          change content.id = scan.page at id
          rw [← id, TableFile.pageId, ← table]
        change reached.pool.residentFrame? scan.page = _ at found
        rw [here] at found
        exact Page.traced_rows wellFormed table
          (fun tracks => (sourced.pool content.id.number tracks frame content found).2) row taken

end

end Database

/-! ### What comes of the actions of a service -/

namespace Service

def changes (service : Service) : ServiceAction → List Change
  | .serve action => service.engine.changes action
  | _ => []

/-- The ticket of the operation that an action brings to its end, with what comes of it. -/
def outcome? (service : Service) : ServiceAction → Option (Nat × Outcome)
  | .serve action => service.engine.outcome? action
  | .beginRefused ticket operation refusal cause =>
      (service.engine.beginRefused? ticket operation refusal cause).map
        (fun came => (ticket, came.2))
  | .turnRefused ticket refusal cause =>
      (service.engine.turnRefused? ticket refusal cause).map (fun came => (ticket, came.2))
  | _ => none

def Tears (service : Service) (page : PageId) : ServiceAction → Prop
  | .stepRefused ticket _ => ∃ stage ∈ service.chores[ticket]?, stage.Writes page
  | _ => False

instance (service : Service) (page : PageId) : (action : ServiceAction) →
    Decidable (service.Tears page action)
  | .stepRefused ticket _ =>
      inferInstanceAs (Decidable (∃ stage ∈ service.chores[ticket]?, stage.Writes page))
  | .serve _ | .beginRefused _ _ _ _ | .turnRefused _ _ _ | .appendRefused _ _ | .call _ _
  | .step _ => isFalse id

end Service

namespace Chronicle

def ticketsOnwards (chronicle : Chronicle) (action : ServiceAction) : List Nat :=
  match action.plain? with
  | some plain => chronicle.ticketsAfter plain
  | none => chronicle.tickets

def scansOnwards (chronicle : Chronicle) (service : Service) (action : ServiceAction) :
    List Scan :=
  match service.outcome? action with
  | some (ticket, .scanned scan _ _) =>
      if ticket ∈ chronicle.ticketsOnwards action then scan :: chronicle.scans
      else chronicle.scans
  | _ => chronicle.scans

def onwards (chronicle : Chronicle) (service : Service) (action : ServiceAction) : Chronicle :=
  { changes := chronicle.changes ++ service.changes action
    tickets := chronicle.ticketsOnwards action
    scans := chronicle.scansOnwards service action }

def onwardsEach (chronicle : Chronicle) (service : Service) : List ServiceAction → Chronicle
  | [] => chronicle
  | action :: rest =>
      (chronicle.onwards service action).onwardsEach (service.serve action) rest

/-- The action may come now: the file stays the only one at its path, scans go on with what they
were given, and the page is not written in part. -/
structure Allows (chronicle : Chronicle) (file : TableFile) (number : Nat) (service : Service)
    (action : ServiceAction) : Prop where
  proper : service.Proper action
  upholds : Service.Upholds file service action
  continues : ∀ plain ∈ action.plain?, chronicle.Continues plain
  whole : ¬service.Tears (file.pageId number) action

instance (chronicle : Chronicle) (file : TableFile) (number : Nat) (service : Service)
    (action : ServiceAction) : Decidable (chronicle.Allows file number service action) :=
  decidable_of_iff (service.Proper action ∧ Service.Upholds file service action ∧
      (∀ plain ∈ action.plain?, chronicle.Continues plain) ∧
        ¬service.Tears (file.pageId number) action)
    ⟨fun all => ⟨all.1, all.2.1, all.2.2.1, all.2.2.2⟩, fun allows =>
      ⟨allows.proper, allows.upholds, allows.continues, allows.whole⟩⟩

def AllowsEach (chronicle : Chronicle) (file : TableFile) (number : Nat) (service : Service) :
    List ServiceAction → Prop
  | [] => True
  | action :: rest => chronicle.Allows file number service action ∧
      (chronicle.onwards service action).AllowsEach file number (service.serve action) rest

def decideAllowsEach (chronicle : Chronicle) (file : TableFile) (number : Nat)
    (service : Service) : (actions : List ServiceAction) →
      Decidable (chronicle.AllowsEach file number service actions)
  | [] => isTrue trivial
  | action :: rest =>
      have := (chronicle.onwards service action).decideAllowsEach file number
        (service.serve action) rest
      inferInstanceAs (Decidable (_ ∧ _))

instance (chronicle : Chronicle) (file : TableFile) (number : Nat) (service : Service)
    (actions : List ServiceAction) :
    Decidable (chronicle.AllowsEach file number service actions) :=
  chronicle.decideAllowsEach file number service actions

end Chronicle

namespace Service

/-- Everything that is known of the page, and everything that is under way with it, is traced to the
chronicle. -/
structure Chronicled (service : Service) (file : TableFile) (number : Nat)
    (chronicle : Chronicle) : Prop where
  grounded : service.Grounded
  hosts : service.engine.Hosts file
  records : service.database.Records file number chronicle.changes
  tasks : ∀ ticket ∈ chronicle.tickets, ∀ task, service.engine.tasks[ticket]? = some task →
    task.Traced file (· = number) chronicle.changes
  scans : ∀ scan ∈ chronicle.scans, scan.Traced file (· = number) chronicle.changes []
  frames : ∀ (ticket frame : Nat) rest purpose,
    service.chores[ticket]? = some (.writing (file.pageId number) frame rest purpose) →
      ∀ content, service.database.pool.frames[frame]? = some content →
        content.schema = file.schema ∧ content.Known chronicle.changes

section

variable {service : Service} {action : ServiceAction} {file : TableFile} {number : Nat}
  {chronicle : Chronicle} {current next : Database} {frame : Nat}

theorem Chronicled.engine (chronicled : service.Chronicled file number chronicle) :
    service.engine.Chronicled file (· = number) chronicle :=
  ⟨chronicled.grounded.engine, chronicled.hosts, chronicled.records.sourced, chronicled.tasks,
    chronicled.scans⟩

private theorem admits_of_allows {plain : DatabaseAction}
    (allows : chronicle.Allows file number service (.serve plain)) :
    chronicle.Admits file service.engine plain :=
  ⟨(allows.proper.plain plain rfl).1, ⟨allows.upholds.names, allows.upholds.opens,
    allows.upholds.brings⟩, allows.continues plain rfl⟩

private theorem known_of_edit {edits : List PageEdit} (steady : current.Steady)
    (makes : service.Makes action current (.move (.edit frame edits)))
    (moves : current.Moves (.edit frame edits) next) {content : Page}
    (held : current.pool.frames[frame]? = some content)
    (known : content.Known (chronicle.onwards service action).changes) :
    (content.editEach edits).Known (chronicle.onwards service action).changes := by
  have wellFormed := (steady.frames _ _ held).2
  have typed : ∀ edit ∈ edits, edit.Typed := by
    cases moves with
    | edit _ typed => exact typed
  cases makes with
  | plain _ makes whole =>
      cases whole frame edits rfl
      cases makes.edits with
      | @turn _ _ _ old call _ _ resident _ gains _ _ =>
          cases held.symm.trans (Pool.residentFrame?_eq_some.mp resident).2
          exact known.edit wellFormed (typed call List.mem_cons_self)
            (fun change member => List.mem_append_right _ (gains change member))
      | @edit call old heldBefore =>
          cases held.symm.trans heldBefore
          refine known.edit wellFormed (typed call List.mem_cons_self) ?_
          intro change member
          refine List.mem_append_right _ ?_
          unfold changes Engine.changes
          dsimp only
          rw [held]
          exact member

/-! ### Every answer is traced -/

private theorem mem_onwards {change : Change} (member : change ∈ chronicle.changes) :
    change ∈ (chronicle.onwards service action).changes :=
  List.mem_append_left _ member

private theorem Chronicled.serve_records (chronicled : service.Chronicled file number chronicle)
    (allows : chronicle.Allows file number service action) :
    (service.serve action).database.Records file number
      (chronicle.onwards service action).changes := by
  have grounded := chronicled.grounded
  refine grounded.serve_keeps allows.proper
    (fun current => current.Records file number (chronicle.onwards service action).changes) ?_
    (chronicled.records.mono fun _ => mem_onwards)
  intro current next stride steady within records makes strides
  refine records.strides strides steady
    (makes.heeds chronicled.hosts grounded.engine.steady allows.upholds within) ?_ ?_ ?_
  · rintro frame edits content rfl found known
    cases strides with
    | move moves =>
        have held := (Pool.residentFrame?_eq_some.mp found).2
        exact known_of_edit steady makes moves held known
  · rintro frame rfl content held
    cases makes with
    | copy under =>
        obtain ⟨schema, known⟩ := chronicled.frames _ frame _ _ under content held
        exact ⟨schema, known.mono fun _ => mem_onwards⟩
  · rintro frame written rfl
    cases makes with
    | tear under => exact allows.whole ⟨_, under, rfl⟩

/-- Whoever is about to write the page goes on with a frame of it of which the rows are known. -/
private theorem Chronicled.serve_frames (chronicled : service.Chronicled file number chronicle)
    (allows : chronicle.Allows file number service action) (ticket frame : Nat)
    (rest : List PageId) (purpose : Purpose)
    (under : (service.serve action).chores[ticket]? =
      some (.writing (file.pageId number) frame rest purpose)) (content : Page)
    (held : (service.serve action).database.pool.frames[frame]? = some content) :
    content.schema = file.schema ∧ content.Known (chronicle.onwards service action).changes := by
  have grounded := chronicled.grounded
  have before : ∃ content, service.database.pool.frames[frame]? = some content ∧
      content.schema = file.schema ∧ content.Known chronicle.changes := by
    cases brings_serve under with
    | stays was _ =>
        obtain ⟨content, held, _⟩ := grounded.framed ticket _ frame rest purpose was
        exact ⟨content, held, chronicled.frames ticket frame rest purpose was content held⟩
    | begins chore _ same => cases chore <;> cases same
    | advances old _ was goesOn =>
        have advances := grounded.advances was
        generalize old.advance service.database = result at goesOn advances
        cases advances with
        | concludes purpose =>
            obtain ⟨_, _, _, impossible⟩ := ends?_conclude goesOn
            cases impossible
        | finds found rest purpose =>
            cases goesOn
            exact ⟨_, (Pool.residentFrame?_eq_some.mp found).2,
              chronicled.records.sourced.pool number rfl frame _ found⟩
        | _ => cases goesOn
  obtain ⟨old, heldBefore, schema, known⟩ := before
  have after : ∃ content, (service.serve action).database.pool.frames[frame]? = some content ∧
      content.schema = file.schema ∧
        content.Known (chronicle.onwards service action).changes := by
    refine grounded.serve_keeps allows.proper (fun current => ∃ content,
      current.pool.frames[frame]? = some content ∧ content.schema = file.schema ∧
        content.Known (chronicle.onwards service action).changes) ?_
      ⟨old, heldBefore, schema, known.mono fun _ => mem_onwards⟩
    rintro current next stride steady _ ⟨content, held, schema, known⟩ makes strides
    obtain ⟨changed, heldNext, rfl | rfl | ⟨edits, rfl, rfl⟩⟩ := strides.getElem?_frames steady held
    · exact ⟨_, heldNext, schema, known⟩
    · exact ⟨_, heldNext, schema, known⟩
    · cases strides with
      | @move _ _ moves =>
          refine ⟨_, heldNext, ?_, known_of_edit steady makes moves held known⟩
          have typed : ∀ edit ∈ edits, edit.Typed := by
            cases moves with
            | edit _ typed => exact typed
          exact ((steady.frames _ _ held).2.editEach typed).2.schema.trans schema
  obtain ⟨again, heldAgain, schemaNext, knownNext⟩ := after
  cases held.symm.trans heldAgain
  exact ⟨schemaNext, knownNext⟩

theorem Chronicled.shows (chronicled : service.Chronicled file number chronicle)
    (allows : chronicle.Allows file number service action) {ticket : Nat} {outcome : Outcome}
    (comes : service.outcome? action = some (ticket, outcome))
    (member : ticket ∈ chronicle.ticketsOnwards action) :
    outcome.Traced file (· = number) (chronicle.onwards service action).changes := by
  cases action with
  | serve plain => exact chronicled.engine.shows (admits_of_allows allows) comes member
  | beginRefused begun operation refusal cause =>
      obtain ⟨⟨next, came⟩, refuses, same⟩ := Option.map_eq_some_iff.mp comes
      cases same
      obtain ⟨reached, goes, _⟩ := beginRefused?_eq_some refuses
      refine Outcome.Traced.mono (Database.traced_ofOperationRefused? ?_ goes) fun _ => mem_onwards
      rintro scan count rfl
      rcases allows.continues _ rfl scan rfl with fresh | left
      · intro _ row member
        rw [fresh] at member
        cases member
      · exact chronicled.scans scan left
  | turnRefused turned refusal cause =>
      obtain ⟨⟨next, came⟩, refuses, same⟩ := Option.map_eq_some_iff.mp comes
      cases same
      have records := chronicled.serve_records allows
      have steady := (chronicled.grounded.serve allows.proper).2.engine.steady
      obtain ⟨task, reached, found, _, goes, rfl⟩ := turnRefused?_eq_some refuses
      have serves : (service.serve (.turnRefused ticket refusal cause)).database = reached := by
        unfold serve
        dsimp only
        rw [refuses]
        exact Engine.database_note ..
      rw [serves] at records
      unfold Service.database at serves
      rw [serves] at steady
      exact Database.traced_ofTaskRefused? (chronicled.grounded.engine.checked ticket task)
        ((chronicled.tasks ticket member task found).mono fun _ => mem_onwards) goes steady
        records.sourced
  | _ => cases comes

private theorem Chronicled.serve_tasks (chronicled : service.Chronicled file number chronicle)
    (allows : chronicle.Allows file number service action) {ticket : Nat}
    (member : ticket ∈ chronicle.ticketsOnwards action) {task : Task}
    (found : (service.serve action).engine.tasks[ticket]? = some task) :
    task.Traced file (· = number) (chronicle.onwards service action).changes := by
  have before (listed : ticket ∈ chronicle.tickets) (refused : ∀ plain, action ≠ .serve plain) :
      task.Traced file (· = number) (chronicle.onwards service action).changes := by
    rcases task_cases found with was | ⟨plain, same, _⟩
    · exact (chronicled.tasks ticket listed task was).mono fun _ => mem_onwards
    · exact absurd same (refused plain)
  cases action with
  | serve plain => exact (chronicled.engine.serve (admits_of_allows allows)).tasks ticket member task found
  | beginRefused begun operation refusal cause =>
      -- The ticket of an operation that begins is not one of an operation under way.
      rcases List.mem_cons.mp member with rfl | listed
      · rcases task_cases found with was | ⟨plain, same, _⟩
        · cases (allows.proper.plain _ rfl).1.1.symm.trans was
        · cases same
      · exact before listed nofun
  | _ => exact before member nofun

private theorem Chronicled.serve_scans (chronicled : service.Chronicled file number chronicle)
    (allows : chronicle.Allows file number service action) {scan : Scan}
    (member : scan ∈ chronicle.scansOnwards service action) :
    scan.Traced file (· = number) (chronicle.onwards service action).changes [] := by
  have before (listed : scan ∈ chronicle.scans) :
      scan.Traced file (· = number) (chronicle.onwards service action).changes [] :=
    (chronicled.scans scan listed).mono fun _ => mem_onwards
  unfold Chronicle.scansOnwards at member
  split at member
  · rename_i ticket left rows ending comes
    split at member
    · rename_i own
      rcases List.mem_cons.mp member with rfl | listed
      · have traced := chronicled.shows allows comes own
        exact fun table row kept => traced table row (List.mem_append_right _ kept)
      · exact before listed
    · exact before member
  · exact before member

theorem Chronicled.serve (chronicled : service.Chronicled file number chronicle)
    (allows : chronicle.Allows file number service action) :
    (service.serve action).Chronicled file number (chronicle.onwards service action) where
  grounded := (chronicled.grounded.serve allows.proper).2
  hosts := chronicled.grounded.hosts allows.proper allows.upholds chronicled.hosts
  records := chronicled.serve_records allows
  tasks := fun _ member _ found => chronicled.serve_tasks allows member found
  scans := fun _ member => chronicled.serve_scans allows member
  frames := chronicled.serve_frames allows

theorem Chronicled.serveEach (chronicled : service.Chronicled file number chronicle)
    {actions : List ServiceAction} (allows : chronicle.AllowsEach file number service actions) :
    (service.serveEach actions).Chronicled file number
      (chronicle.onwardsEach service actions) := by
  induction actions generalizing service chronicle with
  | nil => exact chronicled
  | cons action rest ih => exact ih (chronicled.serve allows.1) allows.2

end

end Service

end RowStore
