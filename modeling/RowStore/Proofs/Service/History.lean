import RowStore.Proofs.Database.Halts
import RowStore.Proofs.Engine.Tenure
import RowStore.Service

/-!
Histories of a service: everything that can be asked of it, in any order, with the steps of chores
and the refusals of the disk between.
-/

set_option autoImplicit false

namespace RowStore

inductive ServiceAction where
  /-- Anything but a chore is asked of the engine. -/
  | serve (action : DatabaseAction)
  | beginRefused (ticket : Nat) (operation : Operation) (refusal : Refusal) (cause : DiskCause)
  | turnRefused (ticket : Nat) (refusal : Refusal) (cause : DiskCause)
  | appendRefused (file : TableFile) (written : Nat)
  | call (ticket : Nat) (chore : Chore)
  | step (ticket : Nat)
  | stepRefused (ticket written : Nat)
  deriving DecidableEq, Repr

def DatabaseAction.isChore : DatabaseAction → Bool
  | .perform (.commit _) => true
  | .perform (.abort _) => true
  | .commitRefused _ _ => true
  | .flush _ => true
  | .flushAll => true
  | _ => false

/-- What the engine is asked for, whether or not the disk refuses it. -/
def ServiceAction.plain? : ServiceAction → Option DatabaseAction
  | .serve action => some action
  | .beginRefused ticket operation _ _ => some (.perform (.begin ticket operation))
  | .turnRefused ticket _ _ => some (.perform (.turn ticket))
  | .appendRefused file _ => some (.append file)
  | _ => none

def Purpose.ends? : Purpose → Option TransactionId
  | .complete transaction _ => some transaction
  | _ => none

def Stage.ends? : Stage → Option TransactionId
  | .visiting _ purpose => purpose.ends?
  | .writing _ _ _ purpose => purpose.ends?
  | .forgetting transaction => some transaction
  | .releasing transaction => some transaction

def Chore.ends? : Chore → Option TransactionId
  | .commit transaction => some transaction
  | .abort transaction => some transaction
  | _ => none

namespace Service

def serve (service : Service) : ServiceAction → Service
  | .serve action => service.setEngine (service.engine.serve action)
  | .beginRefused ticket operation refusal cause =>
      match service.engine.beginRefused? ticket operation refusal cause with
      | some (engine, _) => service.setEngine engine
      | none => service
  | .turnRefused ticket refusal cause =>
      match service.engine.turnRefused? ticket refusal cause with
      | some (engine, _) => service.setEngine engine
      | none => service
  | .appendRefused file written =>
      service.setEngine (service.engine.setDatabase (service.database.appendInPart file written))
  | .call ticket chore => service.call ticket chore
  | .step ticket => (service.step ticket).1
  | .stepRefused ticket written => (service.stepRefused? ticket written).getD service

def serveEach (service : Service) (actions : List ServiceAction) : Service :=
  actions.foldl serve service

theorem serveEach_append (service : Service) (actions more : List ServiceAction) :
    service.serveEach (actions ++ more) = (service.serveEach actions).serveEach more :=
  List.foldl_append

def Along (service : Service) (allowed : Service → ServiceAction → Prop) :
    List ServiceAction → Prop
  | [] => True
  | action :: rest => allowed service action ∧ (service.serve action).Along allowed rest

def decideAlong (service : Service) (allowed : Service → ServiceAction → Prop)
    [∀ service action, Decidable (allowed service action)] :
    (actions : List ServiceAction) → Decidable (service.Along allowed actions)
  | [] => isTrue trivial
  | action :: rest =>
      have := (service.serve action).decideAlong allowed rest
      inferInstanceAs (Decidable (_ ∧ _))

instance (service : Service) (allowed : Service → ServiceAction → Prop)
    [∀ service action, Decidable (allowed service action)] (actions : List ServiceAction) :
    Decidable (service.Along allowed actions) :=
  service.decideAlong allowed actions

theorem along_append {service : Service} {allowed : Service → ServiceAction → Prop}
    {actions more : List ServiceAction} :
    service.Along allowed (actions ++ more) ↔
      service.Along allowed actions ∧ (service.serveEach actions).Along allowed more := by
  induction actions generalizing service with
  | nil => exact (true_and _).symm.to_iff
  | cons action rest ih =>
      change _ ∧ (service.serve action).Along allowed (rest ++ more) ↔ (_ ∧ _) ∧ _
      rw [ih, and_assoc]
      rfl

theorem Along.mono {service : Service} {allowed others : Service → ServiceAction → Prop}
    {actions : List ServiceAction} (along : service.Along allowed actions)
    (within : ∀ service action, allowed service action → others service action) :
    service.Along others actions := by
  induction actions generalizing service with
  | nil => trivial
  | cons action rest ih => exact ⟨within service action along.1, ih along.2⟩

theorem Along.and {service : Service} {allowed others : Service → ServiceAction → Prop}
    {actions : List ServiceAction} (first : service.Along allowed actions)
    (second : service.Along others actions) :
    service.Along (fun service action => allowed service action ∧ others service action)
      actions := by
  induction actions generalizing service with
  | nil => trivial
  | cons action rest ih => exact ⟨⟨first.1, second.1⟩, ih first.2 second.2⟩

theorem along_of_forall {service : Service} {allowed : ServiceAction → Prop}
    {actions : List ServiceAction} (all : ∀ action ∈ actions, allowed action) :
    service.Along (fun _ => allowed) actions := by
  induction actions generalizing service with
  | nil => trivial
  | cons action rest ih =>
      exact ⟨all action List.mem_cons_self, ih (fun later member =>
        all later (List.mem_cons_of_mem action member))⟩

theorem Along.keeps {service : Service} {allowed : Service → ServiceAction → Prop}
    {actions : List ServiceAction} (kept : Service → Prop)
    (along : service.Along allowed actions)
    (step : ∀ service action, kept service → allowed service action → kept (service.serve action))
    (start : kept service) : kept (service.serveEach actions) := by
  induction actions generalizing service with
  | nil => exact start
  | cons action rest ih => exact ih along.2 (step service action start along.1)

/-! ### What may be asked -/

/-- Chores begin under unused tickets, and pages are written back in any order of those in the
pool. -/
def Admits (service : Service) (ticket : Nat) : Chore → Prop
  | .flushAll order => service.chores[ticket]? = none ∧ order.Perm service.database.pool.resident.keys
  | _ => service.chores[ticket]? = none

instance (service : Service) (ticket : Nat) :
    (chore : Chore) → Decidable (service.Admits ticket chore)
  | .flushAll order =>
      inferInstanceAs (Decidable (service.chores[ticket]? = none ∧
        order.Perm service.database.pool.resident.keys))
  | .flushPage _ | .flushTransaction _ | .commit _ | .abort _ =>
      inferInstanceAs (Decidable (service.chores[ticket]? = none))

structure Proper (service : Service) (action : ServiceAction) : Prop where
  plain : ∀ plain ∈ action.plain?, service.engine.Proper plain ∧ plain.isChore = false
  chore : ∀ ticket chore, action = .call ticket chore → service.Admits ticket chore

theorem proper_step (service : Service) (ticket : Nat) : service.Proper (.step ticket) where
  plain _ asked := by cases asked
  chore _ _ calls := by cases calls

theorem proper_stepRefused (service : Service) (ticket written : Nat) :
    service.Proper (.stepRefused ticket written) where
  plain _ asked := by cases asked
  chore _ _ calls := by cases calls

instance (service : Service) : (action : ServiceAction) → Decidable (service.Proper action)
  | .call ticket chore =>
      decidable_of_iff (service.Admits ticket chore) ⟨fun admits => ⟨nofun, by
        rintro _ _ ⟨rfl, rfl⟩
        exact admits⟩, fun proper => proper.chore ticket chore rfl⟩
  | .serve action =>
      decidable_of_iff (service.engine.Proper action ∧ action.isChore = false)
        ⟨fun both => ⟨by
          rintro _ ⟨rfl⟩
          exact both, nofun⟩, fun proper => proper.plain action rfl⟩
  | .beginRefused ticket operation _ _ =>
      decidable_of_iff (service.engine.Proper (.perform (.begin ticket operation)))
        ⟨fun begins => ⟨by
          rintro _ ⟨rfl⟩
          exact ⟨begins, rfl⟩, nofun⟩, fun proper => (proper.plain _ rfl).1⟩
  | .turnRefused ticket _ _ => isTrue ⟨by
      rintro _ ⟨rfl⟩
      exact ⟨trivial, rfl⟩, nofun⟩
  | .appendRefused file _ => isTrue ⟨by
      rintro _ ⟨rfl⟩
      exact ⟨trivial, rfl⟩, nofun⟩
  | .step ticket => isTrue (service.proper_step ticket)
  | .stepRefused ticket written => isTrue (service.proper_stepRefused ticket written)

/-! ### Actions as rows of strides -/

inductive Makes (service : Service) : ServiceAction → Database → Stride → Prop where
  | plain {action : ServiceAction} {plain : DatabaseAction} {current : Database} {move : Move}
      (same : action.plain? = some plain) (makes : service.engine.Makes plain current move)
      (whole : ∀ frame edits, move = .edit frame edits → action = .serve plain) :
      Makes service action current (.move move)
  | fray {action : ServiceAction} {plain : DatabaseAction} {current : Database}
      {file : TableFile} (same : action.plain? = some plain)
      (grows : service.engine.Grows file plain) (refused : ∀ whole, action ≠ .serve whole) :
      Makes service action current (.fray file)
  | save {ticket : Nat} {page : PageId} {frame : Nat} {rest : List PageId} {purpose : Purpose}
      {content : Page}
      (under : service.chores[ticket]? = some (.writing page frame rest purpose))
      (found : service.database.pool.residentFrame? page = some (frame, content)) :
      Makes service (.step ticket) service.database (.move (.save page))
  | copy {ticket : Nat} {page : PageId} {frame : Nat} {rest : List PageId} {purpose : Purpose}
      (under : service.chores[ticket]? = some (.writing page frame rest purpose)) :
      Makes service (.step ticket) service.database (.copy page frame)
  | tear {ticket : Nat} {page : PageId} {frame : Nat} {rest : List PageId} {purpose : Purpose}
      {written : Nat}
      (under : service.chores[ticket]? = some (.writing page frame rest purpose)) :
      Makes service (.stepRefused ticket written) service.database (.tear page frame written)
  | empty {ticket : Nat} (under : service.chores[ticket]? = some (.visiting [] .clear)) :
      Makes service (.step ticket) service.database .empty
  | drop {ticket : Nat} {transaction : TransactionId} {pages : List PageId} {page : PageId}
      {current : Database}
      (under : service.chores[ticket]? = some (.visiting [] (.complete transaction pages)))
      (member : page ∈ pages) : Makes service (.step ticket) current (.move (.drop page))
  | forget {ticket : Nat} {transaction : TransactionId}
      (under : service.chores[ticket]? = some (.forgetting transaction)) :
      Makes service (.step ticket) service.database (.move (.forget transaction))
  | release {ticket : Nat} {transaction : TransactionId}
      (under : service.chores[ticket]? = some (.releasing transaction)) :
      Makes service (.step ticket) service.database (.move (.lock (.releaseAll transaction)))

/-- What holds between any two actions: the engine is grounded, and whoever is about to write a page
has a frame of it. -/
structure Grounded (service : Service) : Prop where
  engine : service.engine.Grounded
  framed : ∀ (ticket : Nat) page frame rest purpose,
    service.chores[ticket]? = some (.writing page frame rest purpose) →
      ∃ content, service.database.pool.frames[frame]? = some content ∧ content.id = page

theorem grounded_new {start : Database} (setUp : start.SetUp) : (new start).Grounded := by
  refine ⟨Engine.grounded_new setUp, ?_⟩
  intro ticket page frame rest purpose under
  simp [new] at under

end Service

/-! ### Writing a frame back -/

namespace Database

section

variable {database next : Database} {page : PageId} {frame : Nat} {content : Page}

/-- A frame without changes is not written. One with changes is, be it the one in the pool or not. -/
inductive WritesFrame (database : Database) (page : PageId) (frame : Nat) (content : Page) :
    Database → Prop where
  | clean (clean : content.isDirty = false) : WritesFrame database page frame content database
  | save {next : Database}
      (found : database.pool.residentFrame? page = some (frame, content))
      (moves : database.Moves (.save page) next) : WritesFrame database page frame content next
  | copy {next : Database} (stale : database.pool.resident[page]? ≠ some frame)
      (strides : database.Strides (.copy page frame) next) :
      WritesFrame database page frame content next

theorem writesFrame_of_ok (held : database.pool.frames[frame]? = some content)
    (own : content.id = page) (writes : database.writeFrame page frame = .ok next) :
    database.WritesFrame page frame content next := by
  unfold writeFrame at writes
  rw [held] at writes
  dsimp only at writes
  cases dirty : content.isDirty with
  | false =>
      rw [dirty, if_neg Bool.false_ne_true] at writes
      cases writes
      exact .clean dirty
  | true =>
      rw [dirty, if_pos rfl] at writes
      cases registered : database.catalog.file page.table with
      | error fault =>
          rw [registered] at writes
          cases writes
      | ok file =>
          rw [registered] at writes
          dsimp only [bind, Except.bind, writePage] at writes
          cases written : file.writePage database.volume content with
          | error fault =>
              rw [written] at writes
              cases writes
          | ok volume =>
              rw [written] at writes
              cases writes
              obtain ⟨length, rfl⟩ := TableFile.writePage_cases written
              subst own
              by_cases resident : database.pool.resident[content.id]? = some frame
              · have found := Pool.residentFrame?_eq_some.mpr ⟨resident, held⟩
                exact .save found (.save found dirty registered length)
              · exact .copy resident (.copy held rfl resident dirty registered length)

/-- Both ways of writing a frame put its bytes where the page is on the disk, and clean the frame. -/
theorem WritesFrame.cases (writes : database.WritesFrame page frame content next)
    (held : database.pool.frames[frame]? = some content) :
    content.isDirty = false ∧ next = database ∨
      content.isDirty = true ∧ ∃ file, database.catalog.file page.table = .ok file ∧
        content.encode.length = file.pageSize ∧
          next = (database.putImage file page.number content.encode).setFrame frame
            (content.mark none) := by
  cases writes with
  | clean clean => exact .inl ⟨clean, rfl⟩
  | save found moves =>
      cases moves with
      | save foundAgain dirty registered length =>
          cases found.symm.trans foundAgain
          exact .inr ⟨dirty, _, registered, length, rfl⟩
  | copy _ strides =>
      cases strides with
      | copy heldAgain own stale dirty registered length =>
          cases held.symm.trans heldAgain
          exact .inr ⟨dirty, _, registered, length, rfl⟩

/-- A frame that is written is without changes then, if it is the one in the pool. -/
theorem WritesFrame.saved (writes : database.WritesFrame page frame content next)
    (held : database.pool.frames[frame]? = some content)
    (resident : database.pool.resident[page]? = some frame) : next.pool.unsaved? page = none := by
  have found := Pool.residentFrame?_eq_some.mpr ⟨resident, held⟩
  rcases writes.cases held with ⟨clean, rfl⟩ | ⟨_, file, _, _, rfl⟩
  · rw [Pool.unsaved?_of_resident found, clean]
    rfl
  · have after := Pool.residentFrame?_setFrame_of_found found frame (content.mark none)
    rw [if_pos rfl] at after
    exact Pool.unsaved?_of_resident after

theorem tears_of_some {written : Nat} (held : database.pool.frames[frame]? = some content)
    (own : content.id = page)
    (tears : database.writeFrameInPart? page frame written = some next) :
    database.Strides (.tear page frame written) next := by
  unfold writeFrameInPart? at tears
  rw [held] at tears
  cases registered : database.catalog.file page.table with
  | error fault =>
      rw [registered] at tears
      cases tears
  | ok file =>
      rw [registered] at tears
      dsimp only at tears
      split at tears
      · rename_i both
        obtain ⟨dirty, succeeds⟩ := Bool.and_eq_true_iff.mp both
        cases tears
        cases whole : file.writePage database.volume content with
        | error fault =>
            rw [whole] at succeeds
            cases succeeds
        | ok volume =>
            exact .tear written held own dirty registered (TableFile.writePage_cases whole).1
      · cases tears

inductive Advances (database : Database) : Stage → Database × Headway → Prop where
  | concludes (purpose : Purpose) :
      Advances database (.visiting [] purpose) (Stage.conclude database purpose)
  | skips {page : PageId} (absent : database.pool.resident[page]? = none) (rest : List PageId)
      (purpose : Purpose) :
      Advances database (.visiting (page :: rest) purpose)
        (database, .onwards (.visiting rest purpose))
  | finds {page : PageId} {frame : Nat} {content : Page}
      (found : database.pool.residentFrame? page = some (frame, content)) (rest : List PageId)
      (purpose : Purpose) :
      Advances database (.visiting (page :: rest) purpose)
        (database, .onwards (.writing page frame rest purpose))
  | writes {page : PageId} {frame : Nat} {content : Page} {next : Database}
      (held : database.pool.frames[frame]? = some content) (own : content.id = page)
      (writes : database.WritesFrame page frame content next) (rest : List PageId)
      (purpose : Purpose) :
      Advances database (.writing page frame rest purpose)
        (next, .onwards (.visiting rest purpose))
  | fails (page : PageId) (frame : Nat) (rest : List PageId) (purpose : Purpose)
      (fault : Fault) :
      Advances database (.writing page frame rest purpose) (database, .finished (.error fault))
  | forgets (transaction : TransactionId) :
      Advances database (.forgetting transaction)
        ({ database with pool := database.pool.forgetWrites transaction },
          .onwards (.releasing transaction))
  | releases (transaction : TransactionId) :
      Advances database (.releasing transaction)
        (database.releaseAll transaction, .finished (.ok ()))

theorem Advances.framed {stage : Stage} {result : Database × Headway}
    (advances : database.Advances stage result) (sound : database.pool.Sound)
    {rest : List PageId} {purpose : Purpose}
    (goesOn : result.2 = .onwards (.writing page frame rest purpose)) :
    ∃ content, database.pool.frames[frame]? = some content ∧ content.id = page := by
  cases advances with
  | concludes purpose => cases purpose <;> cases goesOn
  | finds found _ _ =>
      cases goesOn
      exact ⟨_, (Pool.residentFrame?_eq_some.mp found).2, sound.id_eq found⟩
  | _ => cases goesOn

theorem advances_of_framed (sound : database.pool.Sound) (stage : Stage)
    (framed : ∀ page frame rest purpose, stage = .writing page frame rest purpose →
      ∃ content, database.pool.frames[frame]? = some content ∧ content.id = page) :
    database.Advances stage (stage.advance database) := by
  cases stage with
  | visiting pages purpose =>
      cases pages with
      | nil => exact .concludes purpose
      | cons page rest =>
          unfold Stage.advance
          dsimp only
          cases resident : database.pool.resident[page]? with
          | none => exact .skips resident rest purpose
          | some frame =>
              obtain ⟨_, content, held, _⟩ := sound page frame resident
              exact .finds (Pool.residentFrame?_eq_some.mpr ⟨resident, held⟩) rest purpose
  | writing page frame rest purpose =>
      obtain ⟨content, held, own⟩ := framed page frame rest purpose rfl
      unfold Stage.advance
      dsimp only
      cases writes : database.writeFrame page frame with
      | error fault => exact .fails page frame rest purpose fault
      | ok next => exact .writes held own (writesFrame_of_ok held own writes) rest purpose
  | forgetting transaction => exact .forgets transaction
  | releasing transaction => exact .releases transaction

end

end Database

/-! ### What an engine is grounded in -/

namespace Engine

theorem Grounded.withDatabase {engine : Engine} (grounded : engine.Grounded) {next : Database}
    (steady : next.Steady)
    (asleep : ∀ (ticket : Nat) (sleeper : Sleeper),
      next.pool.locks.sleepers[ticket]? = some sleeper → ∃ before : Sleeper,
        engine.database.pool.locks.sleepers[ticket]? = some before ∧
          before.request = sleeper.request) : (engine.setDatabase next).Grounded := by
  refine ⟨steady, ?_, grounded.plain⟩
  intro ticket sleeper found
  obtain ⟨before, foundBefore, same⟩ := asleep ticket sleeper found
  obtain ⟨task, own, request⟩ := grounded.asleep ticket before foundBefore
  exact ⟨task, own, request.trans same⟩

end Engine

theorem Trail.id_frames {allowed : Database → Stride → Prop} {database last : Database}
    (trail : Trail allowed database last) (steady : database.Steady) {page : PageId} {frame : Nat}
    (framed : ∃ content, database.pool.frames[frame]? = some content ∧ content.id = page) :
    ∃ content, last.pool.frames[frame]? = some content ∧ content.id = page := by
  refine trail.keeps (fun current => ∃ content,
    current.pool.frames[frame]? = some content ∧ content.id = page) steady ?_ framed
  rintro current next stride steady ⟨content, held, rfl⟩ _ strides
  exact strides.id_frames steady held

namespace Service

section

variable {service : Service} {action : ServiceAction}

private theorem Grounded.setEngine (grounded : service.Grounded) {engine : Engine}
    {allowed : Database → Stride → Prop} (onwards : engine.Grounded)
    (trail : Trail allowed service.database engine.database) :
    (service.setEngine engine).Grounded := by
  refine ⟨onwards, ?_⟩
  intro ticket page frame rest purpose under
  exact trail.id_frames grounded.engine.steady
    (grounded.framed ticket page frame rest purpose under)

/-- What the engine is asked for and the disk refuses is a row of strides, too. -/
private theorem trail_frays {plain : DatabaseAction} (same : action.plain? = some plain)
    (refused : ∀ whole, action ≠ .serve whole) {database reached : Database}
    {file? : Option TableFile} (frays : database.Frays file? reached)
    (own : ∀ file, file? = some file → service.engine.Grows file plain) :
    Trail (service.Makes action) database reached := by
  cases frays with
  | none => exact .here _
  | @part file brings written => 
      exact .single (.fray file written) (.fray same (own file brings) refused)

private theorem Grounded.serve_plain (grounded : service.Grounded) {plain : DatabaseAction}
    (proper : service.engine.Proper plain) :
    Trail (service.Makes (.serve plain)) service.database
        (service.engine.serve plain).database ∧
      (service.setEngine (service.engine.serve plain)).Grounded := by
  obtain ⟨path, onwards⟩ := grounded.engine.serve proper
  have trail : Trail (service.Makes (.serve plain)) service.database
      (service.engine.serve plain).database :=
    .of_path path fun _ _ makes => .plain rfl makes fun _ _ _ => rfl
  exact ⟨trail, grounded.setEngine onwards trail⟩

theorem beginRefused?_eq_some {engine next : Engine} {ticket : Nat} {operation : Operation}
    {refusal : Refusal} {cause : DiskCause} {outcome : Outcome}
    (refuses : engine.beginRefused? ticket operation refusal cause = some (next, outcome)) :
    ∃ reached, Progress.ofOperationRefused? engine.database refusal cause operation =
      some (reached, outcome) ∧ next = (engine.note ticket reached (.finished outcome)).1 := by
  obtain ⟨⟨reached, came⟩, comes, same⟩ := Option.map_eq_some_iff.mp refuses
  cases same
  exact ⟨reached, comes, rfl⟩

theorem turnRefused?_eq_some {engine next : Engine} {ticket : Nat} {refusal : Refusal}
    {cause : DiskCause} {outcome : Outcome}
    (refuses : engine.turnRefused? ticket refusal cause = some (next, outcome)) :
    ∃ task reached, engine.tasks[ticket]? = some task ∧
      (engine.database.pool.locks.acquire ticket task.request).2 = .granted ∧
      Progress.ofTaskRefused? (engine.checked ticket task) refusal cause task =
        some (reached, outcome) ∧
      next = (engine.note ticket reached (.finished outcome)).1 := by
  unfold Engine.turnRefused? at refuses
  cases found : engine.tasks[ticket]? with
  | none =>
      rw [found] at refuses
      cases refuses
  | some task =>
      rw [found] at refuses
      dsimp only at refuses
      split at refuses
      · rename_i granted
        obtain ⟨⟨reached, came⟩, comes, same⟩ := Option.map_eq_some_iff.mp refuses
        cases same
        exact ⟨task, reached, rfl, granted, comes, rfl⟩
      · cases refuses

private theorem Grounded.beginRefused (grounded : service.Grounded) {ticket : Nat}
    {operation : Operation} {refusal : Refusal} {cause : DiskCause}
    (unused : service.engine.tasks[ticket]? = none) {next : Engine} {outcome : Outcome}
    (refuses : service.engine.beginRefused? ticket operation refusal cause =
      some (next, outcome)) :
    Trail (service.Makes (.beginRefused ticket operation refusal cause)) service.database
        next.database ∧ (service.setEngine next).Grounded := by
  obtain ⟨reached, comes, rfl⟩ := beginRefused?_eq_some refuses
  obtain ⟨file?, frays, own⟩ := Progress.frays_ofOperationRefused? comes
  have trail : Trail (service.Makes (.beginRefused ticket operation refusal cause))
      service.database reached := by
    refine trail_frays rfl (fun _ impossible => by cases impossible) frays ?_
    intro file brings
    rcases own file brings with brought | ⟨table, registered⟩
    · exact .brought brought
    · exact .registered registered
  have locks : reached.pool.locks = service.database.pool.locks := by
    cases frays <;> rfl
  have engine : (service.engine.note ticket reached (.finished outcome)).1.Grounded := by
    refine grounded.engine.note (trail.steady grounded.engine.steady) nofun ?_ ?_
    · rw [locks]
      exact grounded.engine.awake_of_unused unused
    · intro other _
      rw [locks]
      rfl
  have reaches : Trail (service.Makes (.beginRefused ticket operation refusal cause))
      service.database (service.engine.note ticket reached (.finished outcome)).1.database := by
    rw [Engine.database_note]
    exact trail
  exact ⟨reaches, grounded.setEngine engine reaches⟩

private theorem Grounded.turnRefused (grounded : service.Grounded) {ticket : Nat}
    {refusal : Refusal} {cause : DiskCause} {next : Engine} {outcome : Outcome}
    (refuses : service.engine.turnRefused? ticket refusal cause = some (next, outcome)) :
    Trail (service.Makes (.turnRefused ticket refusal cause)) service.database next.database ∧
      (service.setEngine next).Grounded := by
  obtain ⟨task, reached, found, granted, comes, rfl⟩ := turnRefused?_eq_some refuses
  have steady := grounded.engine.checked ticket task
  have answers := grounded.engine.answers found
  obtain ⟨loaded, path, frays⟩ :=
    Progress.halts_ofTaskRefused? steady (answers.granted granted) comes
  have locking : service.Makes (.turnRefused ticket refusal cause) service.database
      (.move (.lock (.acquire ticket task.request))) := .plain rfl (.acquire found) nofun
  have readying (current : Database) (move : Move) (readies : task.Readies move) :
      service.Makes (.turnRefused ticket refusal cause) current (.move move) := by
    refine .plain rfl (.turn found ?_ (readies.makes (.waiting task) current)) ?_
    · intro change impossible
      cases impossible
    · rintro frame edits rfl
      cases readies with
      | fetch fetches => cases fetches
  have trail : Trail (service.Makes (.turnRefused ticket refusal cause)) service.database
      reached :=
    .on (.move (.lock (.acquire ticket task.request))) locking
      ((Trail.of_path path readying).trans
        (trail_frays rfl (fun _ impossible => by cases impossible) frays
          (fun file own => .turn found own)))
  have locks : reached.pool.locks = (service.engine.checked ticket task).pool.locks := by
    rw [← Task.Makes.locks (Task.Readies.path path (.waiting task))]
    cases frays <;> rfl
  have awake : (service.engine.checked ticket task).pool.locks.sleepers[ticket]? = none := by
    cases sleeps : (service.engine.checked ticket task).pool.locks.sleepers[ticket]? with
    | none => rfl
    | some sleeper => cases granted.symm.trans (answers.asleep sleeper sleeps).1
  have engine : (service.engine.note ticket reached (.finished outcome)).1.Grounded := by
    refine grounded.engine.note (trail.steady grounded.engine.steady) nofun ?_ ?_
    · rw [locks]
      exact awake
    · intro other apart
      rw [locks]
      exact answers.others other apart
  have reaches : Trail (service.Makes (.turnRefused ticket refusal cause)) service.database
      (service.engine.note ticket reached (.finished outcome)).1.database := by
    rw [Engine.database_note]
    exact trail
  exact ⟨reaches, grounded.setEngine engine reaches⟩

/-! ### Steps of chores -/

theorem chores_note (service : Service) (ticket : Nat) (database : Database) (headway : Headway)
    (other : Nat) : (service.note ticket database headway).1.chores[other]? =
      if other = ticket then
        match headway with
        | .onwards stage => some stage
        | .finished _ => none
      else service.chores[other]? := by
  cases headway with
  | onwards stage =>
      simp only [note, Std.ExtTreeMap.getElem?_insert, Std.LawfulEqCmp.compare_eq_iff_eq,
        eq_comm (a := ticket)]
  | finished result =>
      simp only [note, Std.ExtTreeMap.getElem?_erase, Std.LawfulEqCmp.compare_eq_iff_eq,
        eq_comm (a := ticket)]

theorem engine_note (service : Service) (ticket : Nat) (database : Database)
    (headway : Headway) :
    (service.note ticket database headway).1.engine = service.engine.setDatabase database := by
  cases headway <;> rfl

theorem step_of_stage {ticket : Nat} {stage : Stage}
    (under : service.chores[ticket]? = some stage) :
    service.step ticket = service.note ticket (stage.advance service.database).1
      (stage.advance service.database).2 := by
  unfold step
  rw [under]

private theorem sleeper_of_makes {ticket : Nat} {database next : Database} {stride : Stride}
    (makes : service.Makes action database stride)
    (chore : action = .step ticket ∨ ∃ written, action = .stepRefused ticket written)
    (strides : database.Strides stride next) {other : Nat} {sleeper : Sleeper}
    (found : next.pool.locks.sleepers[other]? = some sleeper) : ∃ before : Sleeper,
      database.pool.locks.sleepers[other]? = some before ∧ before.request = sleeper.request := by
  have locks := strides.locks
  cases makes with
  | plain same _ _ =>
      rcases chore with rfl | ⟨written, rfl⟩
      · cases same
      · cases same
  | fray same _ _ =>
      rcases chore with rfl | ⟨written, rfl⟩
      · cases same
      · cases same
  | release under =>
      rw [locks] at found
      refine LockTable.sleeper_of_perform ?_ found
      intro _ _ impossible
      cases impossible
  | _ =>
      rw [locks] at found
      exact ⟨sleeper, found, rfl⟩

private theorem Grounded.note (grounded : service.Grounded) {ticket : Nat} {next : Database}
    (chore : action = .step ticket ∨ ∃ written, action = .stepRefused ticket written)
    (trail : Trail (service.Makes action) service.database next) {headway : Headway}
    (framed : ∀ page frame rest purpose, headway = .onwards (.writing page frame rest purpose) →
      ∃ content, next.pool.frames[frame]? = some content ∧ content.id = page) :
    (service.note ticket next headway).1.Grounded := by
  constructor
  · rw [engine_note]
    refine grounded.engine.withDatabase (trail.steady grounded.engine.steady) ?_
    refine trail.keeps (fun current => ∀ (other : Nat) (sleeper : Sleeper),
      current.pool.locks.sleepers[other]? = some sleeper → ∃ before : Sleeper,
        service.database.pool.locks.sleepers[other]? = some before ∧
          before.request = sleeper.request) grounded.engine.steady ?_
      (fun _ sleeper found => ⟨sleeper, found, rfl⟩)
    intro database next stride _ kept makes strides other sleeper found
    obtain ⟨between, foundBetween, same⟩ := sleeper_of_makes makes chore strides found
    obtain ⟨before, foundBefore, request⟩ := kept other between foundBetween
    exact ⟨before, foundBefore, request.trans same⟩
  · intro other page frame rest purpose under
    have database : (service.note ticket next headway).1.database = next :=
      congrArg Engine.database (engine_note service ticket next headway)
    rw [database]
    rw [chores_note] at under
    split at under
    · cases headway with
      | onwards stage =>
          cases under
          exact framed page frame rest purpose rfl
      | finished result => cases under
    · exact trail.id_frames grounded.engine.steady
        (grounded.framed other page frame rest purpose under)

private theorem trail_conclude {ticket : Nat} {purpose : Purpose}
    (under : service.chores[ticket]? = some (.visiting [] purpose)) :
    Trail (service.Makes (.step ticket)) service.database
      (Stage.conclude service.database purpose).1 := by
  cases purpose with
  | write => exact .here _
  | clear => exact .single .empty (.empty under)
  | complete transaction pages =>
      refine .of_path (service.database.path_discardEach pages) ?_
      rintro current move ⟨page, member, rfl⟩
      exact .drop under member

theorem Grounded.advances (grounded : service.Grounded) {ticket : Nat} {stage : Stage}
    (under : service.chores[ticket]? = some stage) :
    service.database.Advances stage (stage.advance service.database) := by
  refine Database.advances_of_framed grounded.engine.steady.sound stage ?_
  rintro page frame rest purpose rfl
  exact grounded.framed ticket page frame rest purpose under

private theorem trail_advance {ticket : Nat} {stage : Stage} {result : Database × Headway}
    (under : service.chores[ticket]? = some stage)
    (advances : service.database.Advances stage result) :
    Trail (service.Makes (.step ticket)) service.database result.1 := by
  cases advances with
  | concludes _ => exact trail_conclude under
  | writes _ _ writes _ _ =>
      cases writes with
      | clean _ => exact .here _
      | save found moves => exact .single (.move moves) (.save under found)
      | copy _ strides => exact .single strides (.copy under)
  | forgets transaction => exact .single (.move (.forget transaction)) (.forget under)
  | releases transaction => exact .single (.move (.lock (.releaseAll transaction))) (.release under)
  | _ => exact .here _

private theorem Grounded.step (grounded : service.Grounded) (ticket : Nat) :
    Trail (service.Makes (.step ticket)) service.database (service.step ticket).1.database ∧
      (service.step ticket).1.Grounded := by
  cases under : service.chores[ticket]? with
  | none =>
      have same : service.step ticket = (service, none) := by
        unfold Service.step
        rw [under]
      rw [same]
      exact ⟨.here _, grounded⟩
  | some stage =>
      have advances := grounded.advances under
      have trail := trail_advance under advances
      have database := congrArg Engine.database (service.engine_note ticket
        (stage.advance service.database).1 (stage.advance service.database).2)
      rw [step_of_stage under]
      refine ⟨?_, grounded.note (.inl rfl) trail ?_⟩
      · unfold Service.database at database ⊢
        rw [database]
        exact trail
      · intro page frame rest purpose goesOn
        exact trail.id_frames grounded.engine.steady
          (advances.framed grounded.engine.steady.sound goesOn)

theorem stepRefused?_eq_some {ticket written : Nat} {next : Service}
    (refuses : service.stepRefused? ticket written = some next) :
    ∃ page frame rest purpose reached,
      service.chores[ticket]? = some (.writing page frame rest purpose) ∧
      service.database.writeFrameInPart? page frame written = some reached ∧
      ∀ result, next = (service.note ticket reached (.finished result)).1 := by
  obtain ⟨stage, under, rest⟩ := Option.bind_eq_some_iff.mp refuses
  cases stage with
  | writing page frame pages purpose =>
      obtain ⟨reached, tears, same⟩ := Option.bind_eq_some_iff.mp rest
      cases same
      exact ⟨page, frame, pages, purpose, reached, under, tears, fun _ => rfl⟩
  | _ => cases rest

private theorem Grounded.stepRefused (grounded : service.Grounded) {ticket written : Nat}
    {next : Service} (refuses : service.stepRefused? ticket written = some next) :
    Trail (service.Makes (.stepRefused ticket written)) service.database next.database ∧
      next.Grounded := by
  obtain ⟨page, frame, rest, purpose, reached, under, tears, same⟩ := stepRefused?_eq_some refuses
  obtain ⟨content, held, own⟩ := grounded.framed ticket page frame rest purpose under
  have trail : Trail (service.Makes (.stepRefused ticket written)) service.database reached :=
    .single (Database.tears_of_some held own tears) (.tear under)
  have database := congrArg Engine.database
    (service.engine_note ticket reached (.finished (.ok ())))
  rw [same (.ok ())]
  refine ⟨?_, grounded.note (.inr ⟨written, rfl⟩) trail nofun⟩
  unfold Service.database at database ⊢
  rw [database]
  exact trail

theorem Grounded.serve (grounded : service.Grounded) (proper : service.Proper action) :
    Trail (service.Makes action) service.database (service.serve action).database ∧
      (service.serve action).Grounded := by
  unfold Service.serve
  cases action with
  | serve plain => exact grounded.serve_plain (proper.plain plain rfl).1
  | beginRefused ticket operation refusal cause =>
      dsimp only
      cases refuses : service.engine.beginRefused? ticket operation refusal cause with
      | none => exact ⟨.here _, grounded⟩
      | some answer => exact grounded.beginRefused (proper.plain _ rfl).1.1 refuses
  | turnRefused ticket refusal cause =>
      dsimp only
      cases refuses : service.engine.turnRefused? ticket refusal cause with
      | none => exact ⟨.here _, grounded⟩
      | some answer => exact grounded.turnRefused refuses
  | appendRefused file written =>
      have trail : Trail (service.Makes (.appendRefused file written)) service.database
          (service.database.appendInPart file written) :=
        .single (.fray file written) (.fray rfl (.brought rfl) nofun)
      exact ⟨trail, grounded.setEngine (grounded.engine.withDatabase
        (trail.steady grounded.engine.steady) (fun _ sleeper found => ⟨sleeper, found, rfl⟩)) trail⟩
  | call ticket chore =>
      refine ⟨.here _, grounded.engine, ?_⟩
      intro other page frame rest purpose under
      unfold Service.call at under
      dsimp only at under
      rw [Std.ExtTreeMap.getElem?_insert] at under
      split at under
      · cases chore <;> cases under
      · exact grounded.framed other page frame rest purpose under
  | step ticket => exact grounded.step ticket
  | stepRefused ticket written =>
      dsimp only
      cases refuses : service.stepRefused? ticket written with
      | none => exact ⟨.here _, grounded⟩
      | some next => exact grounded.stepRefused refuses

theorem Grounded.serveEach (grounded : service.Grounded) {actions : List ServiceAction}
    (proper : service.Along Proper actions) : (service.serveEach actions).Grounded :=
  proper.keeps Grounded (fun _ _ grounded proper => (grounded.serve proper).2) grounded

end

end Service

end RowStore
