import RowStore.Proofs.Database.Samples
import RowStore.Proofs.Service.Saving

/-!
Handles: a transaction that fetched a page in order to write it keeps the frame that it was given,
and changes the page through the frame. The frame stays the page's own until the transaction ends,
unless the pool is emptied.
-/

set_option autoImplicit false

namespace RowStore

namespace ServiceAction

/-- What a frame holds is changed through the frame. -/
def Handles (frame : Nat) : ServiceAction → Prop
  | .serve (.edit handled _) => handled = frame
  | _ => False

instance (frame : Nat) (action : ServiceAction) : Decidable (action.Handles frame) := by
  unfold Handles
  split <;> infer_instance

end ServiceAction

namespace Database

/-- The transaction has the page to itself and means to write it, and the page is in this frame. -/
structure Grips (database : Database) (transaction : TransactionId) (page : PageId)
    (frame : Nat) : Prop where
  holds : database.Holds transaction page
  noted : page ∈ database.pool.writtenBy transaction
  resident : ∃ content, database.pool.residentFrame? page = some (frame, content)

def Settles (database : Database) (file : TableFile) (number frame : Nat) : Prop :=
  ∃ content, database.pool.frames[frame]? = some content ∧ content.id = file.pageId number ∧
    database.due? file number = some content.encode

end Database

namespace Service

def Empties (service : Service) : ServiceAction → Prop
  | .step ticket => service.chores[ticket]? = some (.visiting [] .clear)
  | _ => False

instance (service : Service) : (action : ServiceAction) → Decidable (service.Empties action)
  | .step ticket =>
      inferInstanceAs (Decidable (service.chores[ticket]? = some (.visiting [] .clear)))
  | .serve _ | .beginRefused _ _ _ _ | .turnRefused _ _ _ | .appendRefused _ _ | .call _ _
  | .stepRefused _ _ => isFalse id

/-! ### A catalog that stays -/

/-- The calls of every transaction come one after another. The action leaves the catalog and the
files at their paths as they are, brings along registered files only, and keeps the page and its
locks. -/
structure Minds (page : PageId) (service : Service) (action : ServiceAction) : Prop where
  proper : service.Proper action
  orderly : service.Orderly action
  catalog : action.recatalogues = false
  opens : action.opens? = none
  brings : ∀ file ∈ action.file?, service.database.catalog.file file.id = .ok file
  keeps : ¬action.Yields page

instance (page : PageId) (service : Service) (action : ServiceAction) :
    Decidable (Minds page service action) :=
  decidable_of_iff (service.Proper action ∧ service.Orderly action ∧
      action.recatalogues = false ∧ action.opens? = none ∧
      (∀ file ∈ action.file?, service.database.catalog.file file.id = .ok file) ∧
        ¬action.Yields page)
    ⟨fun all => ⟨all.1, all.2.1, all.2.2.1, all.2.2.2.1, all.2.2.2.2.1, all.2.2.2.2.2⟩,
      fun minds => ⟨minds.proper, minds.orderly, minds.catalog, minds.opens, minds.brings,
        minds.keeps⟩⟩

structure Minded (service : Service) (catalog : Catalog) (page : PageId) : Prop where
  grounded : service.Grounded
  attended : service.Attended
  same : service.database.catalog = catalog
  reserved : service.database.Reserved page
  registered : ∀ entry, service.database.pool.residentFrame? page = some entry →
    ∃ file, catalog.file page.table = .ok file
  hosts : ∀ file, catalog.file page.table = .ok file → service.engine.Hosts file

theorem minded_new {start : Database} (setUp : start.SetUp) (page : PageId) :
    (new start).Minded start.catalog page := by
  refine ⟨grounded_new setUp, attended_new start, rfl, reserved_new setUp page, ?_, ?_⟩
  · intro entry found
    rw [show (new start).database.pool.residentFrame? page = none from setUp.absent page] at found
    cases found
  · intro file registered
    obtain ⟨id, numbered⟩ := setUp.sound.file registered
    refine ⟨numbered.trans id.symm, ?_, ?_⟩
    · intro other again
      rw [id] at again
      exact Except.ok.inj (again.symm.trans registered)
    · intro ticket task found
      simp [new, Engine.new] at found

section

variable {service : Service} {action : ServiceAction} {catalog : Catalog} {page : PageId}
  {current next : Database} {stride : Stride} {transaction : TransactionId} {frame : Nat}

private theorem Minds.catalog_serve (minds : Minds page service action)
    (grounded : service.Grounded) :
    (service.serve action).database.catalog = service.database.catalog :=
  grounded.serve_keeps minds.proper
    (fun current => current.catalog = service.database.catalog)
    (fun _ _ _ _ within _ makes strides => (within.strides makes strides).catalog_eq minds.catalog) rfl

private theorem Minds.registered (minds : Minds page service action)
    (minded : service.Minded catalog page) (entry : Nat × Page)
    (found : (service.serve action).database.pool.residentFrame? page = some entry) :
    ∃ file, catalog.file page.table = .ok file := by
  refine minded.grounded.serve_keeps minds.proper
    (fun current => ∀ entry, current.pool.residentFrame? page = some entry →
      ∃ file, catalog.file page.table = .ok file) ?_ minded.registered entry found
  intro current next stride steady within registered makes strides entry found
  cases strides with
  | move moves =>
      obtain ⟨frame, content⟩ := entry
      cases moves.resides steady found with
      | stays before _ => exact registered _ before
      | arrives onDisk =>
          obtain ⟨file, known, _⟩ := Database.diskPage?_eq_some.mp onDisk
          rw [within.catalog_eq minds.catalog, minded.same] at known
          exact ⟨file, known⟩
      | edited before _ _ => exact registered _ before
      | saved before _ => exact registered _ before
  | empty =>
      rw [Database.Strides.empty.residentFrame? steady page] at found
      cases found
  | copy held own stale dirty known length =>
      have strides := Database.Strides.copy held own stale dirty known length
      exact registered entry ((strides.residentFrame? steady page).symm.trans found)
  | _ => exact registered entry found

private theorem Minds.upholds (minds : Minds page service action)
    (minded : service.Minded catalog page) {file : TableFile}
    (registered : catalog.file page.table = .ok file) : Upholds file service action := by
  have sound := minded.grounded.engine.steady.catalog
  have hosts := minded.hosts file registered
  refine ⟨?_, ?_, ?_⟩
  · rw [minds.catalog_serve minded.grounded]
    exact hosts.names
  · rw [minds.opens]
    intro impossible
    cases impossible
  · intro other brings samePath
    exact (sound.eq_of_path hosts.numbered hosts.names (minds.brings other brings) samePath).2

theorem Minded.serve (minded : service.Minded catalog page)
    (minds : Minds page service action) : (service.serve action).Minded catalog page where
  grounded := (minded.grounded.serve minds.proper).2
  attended := minded.attended.serve minded.grounded minds.proper minds.orderly
  same := (minds.catalog_serve minded.grounded).trans minded.same
  reserved := minded.grounded.reserved minded.attended minds.proper
    (ServiceAction.not_releases minds.keeps) minded.reserved
  registered := minds.registered minded
  hosts := by
    intro file registered
    exact minded.grounded.hosts minds.proper (minds.upholds minded registered)
      (minded.hosts file registered)

theorem Minded.serveEach (minded : service.Minded catalog page)
    {actions : List ServiceAction} (minds : service.Along (Minds page) actions) :
    (service.serveEach actions).Minded catalog page :=
  minds.keeps (fun service => service.Minded catalog page)
    (fun _ _ minded minds => minded.serve minds) minded

/-! ### The frame that was handed out -/

/-- The transaction is not called to end. -/
def GoesOn (transaction : TransactionId) (action : ServiceAction) : Prop :=
  ∀ ticket chore, action = .call ticket chore → chore.ends? ≠ some transaction

instance (transaction : TransactionId) : (action : ServiceAction) →
    Decidable (GoesOn transaction action)
  | .call ticket chore => decidable_of_iff (chore.ends? ≠ some transaction)
      ⟨fun goesOn _ _ same => by cases same; exact goesOn, fun goesOn => goesOn ticket chore rfl⟩
  | .serve _ | .beginRefused _ _ _ _ | .turnRefused _ _ _ | .appendRefused _ _ | .step _
  | .stepRefused _ _ => isTrue nofun

theorem not_ending_serve (goesOn : GoesOn transaction action)
    (before : ¬service.Ending transaction) : ¬(service.serve action).Ending transaction := by
  rintro ⟨ticket, stage, under, ends⟩
  rcases (brings_serve under).ends ends with ⟨old, was, same⟩ | ⟨chore, calls, same⟩
  · exact before ⟨ticket, old, was, same⟩
  · exact goesOn ticket chore calls same

theorem not_frees (before : ¬service.Ending transaction) : ¬service.Frees transaction action := by
  intro frees
  cases action with
  | step ticket => exact before ⟨ticket, _, frees, rfl⟩
  | _ => exact frees.elim

private theorem Minded.grips_stride (minded : service.Minded catalog page)
    (minds : Minds page service action) (goesOn : ¬service.Ending transaction)
    (filled : ¬service.Empties action) (start : service.database.Holds transaction page)
    (steady : current.Steady) (makes : service.Makes action current stride)
    (strides : current.Strides stride next) (grips : current.Grips transaction page frame) :
    next.Grips transaction page frame := by
  obtain ⟨content, found⟩ := grips.resident
  refine ⟨minded.attended.holds minds.proper makes strides
    (ServiceAction.not_releases minds.keeps) (not_frees goesOn) grips.holds,
    strides.keeps_writtenBy ?_ grips.noted, ?_⟩
  · rintro rfl
    obtain ⟨ticket, _, _, under⟩ := makes.forget_cases minds.proper
    exact goesOn ⟨ticket, _, under, rfl⟩
  · rw [strides.residentFrame? steady page, found]
    cases strides with
    | move moves =>
        cases moves with
        | @evict gone _ _ _ _ free =>
            refine ⟨content, if_neg ?_⟩
            rintro rfl
            rw [grips.holds.exclusiveHolder?] at free
            cases free
        | drop gone =>
            refine ⟨content, if_neg ?_⟩
            rintro rfl
            obtain ⟨ticket, pages, _, under⟩ := makes.drop_of_holds
              minded.grounded.engine.steady minded.attended minds.proper start minds.keeps
            exact goesOn ⟨ticket, _, under, rfl⟩
        | @arrive other absent _ =>
            refine ⟨content, if_neg ?_⟩
            rintro rfl
            rw [found] at absent
            cases absent
        | clear _ =>
            cases makes with
            | plain same makes _ =>
                cases makes.clears.isChore.symm.trans (minds.proper.plain _ same).2
        | edit _ _ => exact ⟨_, rfl⟩
        | save _ _ _ _ => exact ⟨_, rfl⟩
        | _ => exact ⟨content, rfl⟩
    | empty =>
        cases makes with
        | empty under => exact absurd under filled
    | _ => exact ⟨content, rfl⟩

private theorem Minded.grips (minded : service.Minded catalog page)
    (minds : Minds page service action) (goesOn : ¬service.Ending transaction)
    (filled : ¬service.Empties action) (grips : service.database.Grips transaction page frame) :
    (service.serve action).database.Grips transaction page frame :=
  minded.grounded.serve_keeps minds.proper
    (fun current => current.Grips transaction page frame)
    (fun _ _ _ steady _ gripsNow makes strides => minded.grips_stride minds goesOn filled
      grips.holds steady makes strides gripsNow) grips

/-- What a frame holds is what its page is going to have once it is marked as changed. -/
private theorem settles_of_dirty {file : TableFile} {number : Nat} {content : Page}
    (steady : current.Steady)
    (found : current.pool.residentFrame? (file.pageId number) = some (frame, content))
    (dirty : content.isDirty = true) : current.Settles file number frame := by
  refine ⟨content, (Pool.residentFrame?_eq_some.mp found).2, steady.sound.id_eq found, ?_⟩
  unfold Database.due?
  rw [Pool.unsaved?_eq_some.mpr ⟨⟨frame, found⟩, dirty⟩]

variable {file : TableFile} {number : Nat}

/-- The page goes on being what the frame holds while operations change the page in the frame, since
they mark it as changed. -/
private theorem Minded.settles (minded : service.Minded catalog (file.pageId number))
    (registered : catalog.file file.id = .ok file)
    (minds : Minds (file.pageId number) service action)
    (goesOn : ¬service.Ending transaction) (filled : ¬service.Empties action)
    (unhandled : ¬action.Handles frame)
    (recent : ¬service.Overwrites (file.pageId number) action)
    (grips : service.database.Grips transaction (file.pageId number) frame)
    (settles : service.database.Settles file number frame) :
    (service.serve action).database.Settles file number frame := by
  have hosts := minded.hosts file registered
  have upholds := minds.upholds minded registered
  have steadyBefore := minded.grounded.engine.steady
  have both := minded.grounded.serve_keeps minds.proper
    (fun current => current.Grips transaction (file.pageId number) frame ∧
      current.Settles file number frame) ?_ ⟨grips, settles⟩
  · exact both.2
  · intro current next stride steady within ⟨gripsNow, settlesNow⟩ makes strides
    have gripsNext := minded.grips_stride minds goesOn filled grips.holds steady makes strides
      gripsNow
    refine ⟨gripsNext, ?_⟩
    obtain ⟨old, found⟩ := gripsNow.resident
    by_cases edited : ∃ edits, stride = .move (.edit frame edits)
    · obtain ⟨edits, rfl⟩ := edited
      cases strides with
      | move moves =>
          cases makes with
          | plain same makes whole =>
              cases whole frame edits rfl
              cases makes.edits with
              | edit _ => exact absurd rfl unhandled
              | turn _ _ _ _ _ _ _ =>
                  exact settles_of_dirty (moves.steady steady)
                    (moves.residentFrame?_edit steady found) rfl
    · obtain ⟨content, held, id, due⟩ := settlesNow
      obtain ⟨changed, heldNext, same⟩ := strides.getElem?_frames steady held
      have dueNext := strides.due? steady (makes.heeds hosts steadyBefore upholds within)
        (by
          intro drops
          obtain ⟨contentNext, foundNext⟩ := gripsNext.resident
          rw [strides.residentFrame? steady] at foundNext
          rcases drops with rfl | rfl
          · rw [Stride.reframes, Move.reframes, if_pos rfl] at foundNext
            cases foundNext
          · cases foundNext)
        (by
          intro other edits content same foundAgain
          cases found.symm.trans foundAgain
          exact edited ⟨edits, same⟩)
        (fun writes => makes.recent strides writes recent) due
      rcases same with rfl | rfl | ⟨edits, edits', _⟩
      · exact ⟨changed, heldNext, id, dueNext⟩
      · exact ⟨content.mark none, heldNext, id, dueNext⟩
      · exact absurd ⟨edits, edits'⟩ edited

private theorem Minded.frame_kept (minded : service.Minded catalog page)
    (minds : Minds page service action) (goesOn : ¬service.Frees transaction action)
    (unwritten : ¬service.Rewrites transaction page action)
    (holds : service.database.Holds transaction page) {bytes : List UInt8}
    (held : ∃ content, service.database.pool.frames[frame]? = some content ∧
      content.id = page ∧ content.encode = bytes) :
    ∃ content, (service.serve action).database.pool.frames[frame]? = some content ∧
      content.id = page ∧ content.encode = bytes := by
  have kept := minded.grounded.serve_keeps minds.proper (fun current =>
    current.Holds transaction page ∧ ∃ content, current.pool.frames[frame]? = some content ∧
      content.id = page ∧ content.encode = bytes) ?_ ⟨holds, held⟩
  · exact kept.2
  · intro current next stride steady _ ⟨holdsNow, content, held, id, same⟩ makes strides
    refine ⟨minded.attended.holds minds.proper makes strides
      (ServiceAction.not_releases minds.keeps) goesOn holdsNow, ?_⟩
    obtain ⟨changed, heldNext, how⟩ := strides.getElem?_frames steady held
    refine ⟨changed, heldNext, ?_⟩
    rcases how with rfl | rfl | ⟨edits, rfl, _⟩
    · exact ⟨id, same⟩
    · exact ⟨id, same⟩
    · have rewrites := makes.rewrites steady held (by rw [id]; exact holdsNow)
      rw [id] at rewrites
      exact absurd rewrites unwritten

end

/-! ### From the fetch to the commit -/

/-- The action leaves the page to the transaction, which goes on, and the pool is not emptied. -/
structure Grasps (transaction : TransactionId) (page : PageId) (service : Service)
    (action : ServiceAction) : Prop where
  minds : Minds page service action
  goesOn : GoesOn transaction action
  filled : ¬service.Empties action

instance (transaction : TransactionId) (page : PageId) (service : Service)
    (action : ServiceAction) : Decidable (Grasps transaction page service action) :=
  decidable_of_iff
    (Minds page service action ∧ GoesOn transaction action ∧ ¬service.Empties action)
    ⟨fun all => ⟨all.1, all.2.1, all.2.2⟩, fun grasps =>
      ⟨grasps.minds, grasps.goesOn, grasps.filled⟩⟩

/-- Nobody changes the page through its frame, or writes an older copy of it over what the disk
has. -/
structure Trusts (page : PageId) (frame : Nat) (service : Service) (action : ServiceAction) :
    Prop where
  unhandled : ¬action.Handles frame
  recent : ¬service.Overwrites page action

instance (page : PageId) (frame : Nat) (service : Service) (action : ServiceAction) :
    Decidable (Trusts page frame service action) :=
  decidable_of_iff (¬action.Handles frame ∧ ¬service.Overwrites page action)
    ⟨fun both => ⟨both.1, both.2⟩, fun trusts => ⟨trusts.unhandled, trusts.recent⟩⟩

/-- The action leaves the page to the transaction, which goes on or commits. Nobody rewrites the page
in the pool, nor an older copy of it on the disk. -/
structure Forbears (transaction : TransactionId) (page : PageId) (service : Service)
    (action : ServiceAction) : Prop where
  minds : Minds page service action
  unaborted : ¬action.Aborts transaction
  goesOn : ¬service.Frees transaction action
  unwritten : ¬service.Rewrites transaction page action
  recent : ¬service.Overwrites page action

instance (transaction : TransactionId) (page : PageId) (service : Service)
    (action : ServiceAction) : Decidable (Forbears transaction page service action) :=
  decidable_of_iff (Minds page service action ∧ ¬action.Aborts transaction ∧
      ¬service.Frees transaction action ∧ ¬service.Rewrites transaction page action ∧
        ¬service.Overwrites page action)
    ⟨fun all => ⟨all.1, all.2.1, all.2.2.1, all.2.2.2.1, all.2.2.2.2⟩, fun forbears =>
      ⟨forbears.minds, forbears.unaborted, forbears.goesOn, forbears.unwritten, forbears.recent⟩⟩

section

variable {service : Service} {catalog : Catalog} {page : PageId}
  {transaction : TransactionId} {frame : Nat} {actions : List ServiceAction} {file : TableFile}
  {number : Nat}

private theorem Minded.grips_of_fetched (minded : service.Minded catalog page) {ticket : Nat}
    (minds : Minds page service (.serve (.perform (.turn ticket))))
    (asks : service.engine.tasks[ticket]? = some (.fetching transaction page .write))
    {content : Page}
    (gets : (service.engine.turn ticket).2 = .finished (.fetched frame content)) :
    (service.serve (.serve (.perform (.turn ticket)))).database.Grips transaction page frame ∧
      ¬(service.serve (.serve (.perform (.turn ticket)))).Ending transaction := by
  have grounded := minded.grounded.engine
  have reserved := (minded.serve minds).reserved
  have awake : ¬service.Ending transaction := by
    refine minds.orderly transaction ?_
    dsimp only [asks?]
    rw [asks]
    rfl
  refine ⟨?_, not_ending_serve nofun awake⟩
  change (service.engine.turn ticket).1.database.Reserved page at reserved
  change (service.engine.turn ticket).1.database.Grips transaction page frame
  cases grounded.turnsTo asks with
  | asleep comes _ =>
      rw [comes] at gets
      cases gets
  | refused fault comes _ =>
      rw [comes] at gets
      cases gets
  | granted comes _ permits =>
      have works := grounded.works asks permits
      have locks := Task.Makes.locks works.path
      cases fetches : Progress.ofTask
          (service.engine.checked ticket (.fetching transaction page .write))
          (.fetching transaction page .write) with
      | mk next progress =>
          rw [fetches] at comes locks
          rw [comes] at gets reserved ⊢
          cases progress with
          | waiting rest => cases gets
          | finished outcome =>
              cases gets
              obtain ⟨found, noted⟩ := Database.found_of_fetched (grounded.checked ticket _) fetches
              obtain ⟨held, mode, covers⟩ := permits
              rw [← locks, covers rfl] at mode
              exact ⟨⟨reserved, mode⟩, noted rfl, content, found⟩

private theorem Minded.grips_each (minded : service.Minded catalog page)
    (goesOn : ¬service.Ending transaction)
    (grasps : service.Along (Grasps transaction page) actions)
    (grips : service.database.Grips transaction page frame) :
    (service.serveEach actions).Minded catalog page ∧
      ¬(service.serveEach actions).Ending transaction ∧
        (service.serveEach actions).database.Grips transaction page frame := by
  refine grasps.keeps (fun service => service.Minded catalog page ∧
    ¬service.Ending transaction ∧ service.database.Grips transaction page frame) ?_
    ⟨minded, goesOn, grips⟩
  intro service action all grasps
  obtain ⟨minded, before, grips⟩ := all
  obtain ⟨minds, goesOn, filled⟩ := grasps
  exact ⟨minded.serve minds, not_ending_serve goesOn before,
    minded.grips minds before filled grips⟩

/-- A page that is marked as changed through its frame is going to have what the frame holds. -/
private theorem Minded.settles_of_mark (minded : service.Minded catalog (file.pageId number))
    (grips : service.database.Grips transaction (file.pageId number) frame) :
    (service.serve (.serve (.edit frame (.mark (some transaction))))).database.Settles file number
      frame := by
  have steady := minded.grounded.engine.steady
  obtain ⟨content, found⟩ := grips.resident
  have held := (Pool.residentFrame?_eq_some.mp found).2
  have typed : ∀ edit ∈ [PageEdit.mark (some transaction)], edit.Typed := by
    intro edit member
    cases List.mem_singleton.mp member
    trivial
  have moves := Database.Moves.edit held typed
  have marked := moves.residentFrame?_edit steady found
  have serves : (service.serve (.serve (.edit frame (.mark (some transaction))))).database =
      service.database.setFrame frame (content.editEach [.mark (some transaction)]) := by
    change (service.engine.serve (.edit frame (.mark (some transaction)))).database = _
    unfold Engine.serve
    dsimp only
    rw [show service.engine.database.pool.frames[frame]? = some content from held]
    rfl
  rw [serves]
  exact settles_of_dirty (moves.steady steady) marked rfl

private theorem Minded.settles_each (minded : service.Minded catalog (file.pageId number))
    (registered : catalog.file file.id = .ok file) (goesOn : ¬service.Ending transaction)
    (grasps : service.Along (Grasps transaction (file.pageId number)) actions)
    (trusts : service.Along (Trusts (file.pageId number) frame) actions)
    (grips : service.database.Grips transaction (file.pageId number) frame)
    (settles : service.database.Settles file number frame) :
    (service.serveEach actions).database.Settles file number frame := by
  have all := (grasps.and trusts).keeps (fun service =>
    service.Minded catalog (file.pageId number) ∧ ¬service.Ending transaction ∧
      service.database.Grips transaction (file.pageId number) frame ∧
        service.database.Settles file number frame) ?_ ⟨minded, goesOn, grips, settles⟩
  · exact all.2.2.2
  · intro service action all allowed
    obtain ⟨minded, before, grips, settles⟩ := all
    obtain ⟨⟨minds, goesOn, filled⟩, ⟨unhandled, recent⟩⟩ := allowed
    exact ⟨minded.serve minds, not_ending_serve goesOn before,
      minded.grips minds before filled grips,
      minded.settles registered minds before filled unhandled recent grips settles⟩

private theorem Minded.awaiting_each (minded : service.Minded catalog (file.pageId number))
    (registered : catalog.file file.id = .ok file)
    (forbears : service.Along (Forbears transaction (file.pageId number)) actions)
    {bytes : List UInt8} (awaiting : service.Awaiting transaction file number bytes)
    (held : ∃ content, service.database.pool.frames[frame]? = some content ∧
      content.id = file.pageId number ∧ content.encode = bytes) :
    (service.serveEach actions).Minded catalog (file.pageId number) ∧
      (service.serveEach actions).Awaiting transaction file number bytes ∧
        ∃ content, (service.serveEach actions).database.pool.frames[frame]? = some content ∧
          content.id = file.pageId number ∧ content.encode = bytes := by
  refine forbears.keeps (fun service => service.Minded catalog (file.pageId number) ∧
    service.Awaiting transaction file number bytes ∧
      ∃ content, service.database.pool.frames[frame]? = some content ∧
        content.id = file.pageId number ∧ content.encode = bytes) ?_ ⟨minded, awaiting, held⟩
  intro service action all forbears
  obtain ⟨minded, awaiting, held⟩ := all
  obtain ⟨minds, unaborted, goesOn, unwritten, recent⟩ := forbears
  exact ⟨minded.serve minds, awaiting.serve ⟨minds.proper, minds.orderly, unaborted, goesOn,
    minds.upholds minded registered, minds.keeps, unwritten, recent⟩,
    minded.frame_kept minds goesOn unwritten awaiting.holds held⟩

end

/-- A transaction fetches a page to write it, changes what its frame holds, and marks it as changed.
If the pool is not emptied from the fetch to the mark, nor from there on before an operation of the
transaction changes the page once more, and nobody is about to empty it then, what the frame holds
in the end is what the commit leaves on the disk. Whatever else is asked meanwhile does not matter,
unless an older copy of the page, which left the pool, is written over it. -/
theorem marked_frame_is_committed {start : Database} (setUp : start.SetUp) {page : PageId}
    {before middle second rest : List ServiceAction} {asked fetched marked changed last : Service}
    {ticket frame completing : Nat} {transaction : TransactionId} {content : Page} {stage : Stage}
    (minds : (new start).Along (Minds page) (before ++ [.serve (.perform (.turn ticket))]))
    (reaches : (new start).serveEach before = asked)
    (asks : asked.engine.tasks[ticket]? = some (.fetching transaction page .write))
    (gets : (asked.engine.turn ticket).2 = .finished (.fetched frame content))
    (fetches : asked.serve (.serve (.perform (.turn ticket))) = fetched)
    (grasps : fetched.Along (Grasps transaction page)
      (middle ++ .serve (.edit frame (.mark (some transaction))) :: second))
    (marks : fetched.serveEach (middle ++ [.serve (.edit frame (.mark (some transaction)))]) =
      marked)
    (trusts : marked.Along (Trusts page frame) second)
    (changes : marked.serveEach second = changed)
    (filled : changed.Filled)
    (forbears : changed.Along (Forbears transaction page) rest)
    (reachesLast : changed.serveEach rest = last)
    (under : last.chores[completing]? = some stage)
    (completes : stage.ends? = some transaction)
    (answers : (last.step completing).2 = some (.ok ())) :
    ∃ final, last.database.pool.frames[frame]? = some final ∧
      (last.step completing).1.database.image? page = some final.encode := by
  rw [along_append, reaches] at minds
  obtain ⟨mindsBefore, mindsTurn, _⟩ := minds
  have mindedAsked := (minded_new setUp page).serveEach mindsBefore
  rw [reaches] at mindedAsked
  obtain ⟨grips, goesOn⟩ := mindedAsked.grips_of_fetched mindsTurn asks gets
  have minded := mindedAsked.serve mindsTurn
  rw [fetches] at minded grips goesOn
  -- The page is one of a registered file.
  obtain ⟨old, found⟩ := grips.resident
  obtain ⟨file, known⟩ := minded.registered _ found
  obtain ⟨id, _⟩ := setUp.sound.file known
  obtain ⟨number, rfl⟩ : ∃ number, page = file.pageId number := by
    refine ⟨page.number, ?_⟩
    rw [TableFile.pageId, id]
  have registered : start.catalog.file file.id = .ok file := by
    rw [id]
    exact known
  -- Up to the mark the frame stays the page's own.
  rw [along_append] at grasps
  obtain ⟨untilMark, ⟨mindsMark, goesOnMark, filledMark⟩, afterMark⟩ := grasps
  obtain ⟨mindedMiddle, goesOnMiddle, gripsMiddle⟩ := minded.grips_each goesOn untilMark grips
  have settles := mindedMiddle.settles_of_mark gripsMiddle
  have mindedMark := mindedMiddle.serve mindsMark
  have goesOnAfter := not_ending_serve goesOnMark goesOnMiddle
  have gripsMark := mindedMiddle.grips mindsMark goesOnMiddle filledMark gripsMiddle
  -- From the mark on the page is going to have what the frame holds.
  rw [serveEach_append] at marks
  have marksAgain : (fetched.serveEach middle).serve
      (.serve (.edit frame (.mark (some transaction)))) = marked := marks
  rw [marksAgain] at settles mindedMark goesOnAfter gripsMark afterMark
  have settlesSecond := mindedMark.settles_each registered goesOnAfter afterMark trusts gripsMark
    settles
  obtain ⟨mindedSecond, goesOnSecond, gripsSecond⟩ :=
    mindedMark.grips_each goesOnAfter afterMark gripsMark
  rw [changes] at settlesSecond mindedSecond goesOnSecond gripsSecond
  obtain ⟨held, heldSecond, own, due⟩ := settlesSecond
  obtain ⟨mindedLast, awaiting, final, heldLast, _, same⟩ :=
    mindedSecond.awaiting_each registered forbears
      (awaiting_of_filled mindedSecond.grounded mindedSecond.attended
        (mindedSecond.hosts file known) gripsSecond.holds gripsSecond.noted goesOnSecond filled due)
      ⟨held, heldSecond, own, rfl⟩
  rw [reachesLast] at mindedLast awaiting heldLast
  refine ⟨final, heldLast, ?_⟩
  -- The commit has come to its last step, which gives back the locks.
  obtain rfl := releasing_of_answer under completes answers
  have written := awaiting.image? under
  rw [← same] at written
  rw [database_releasing under]
  refine Database.image?_eq_some.mpr ⟨file, ?_, TableFile.image?_eq_some.mp written⟩
  change last.database.catalog.file (file.pageId number).table = .ok file
  rw [mindedLast.same]
  exact known

/-- The writer stores a row through its frame while another transaction reads pages that do not fit
in beside it. The page is written back, and the writer stores another row by an operation. While it
commits, the pool is emptied. The page on the disk has both rows. -/
theorem marked_frame_is_committed_amid_chores :
    let start := Samples.table 2 3
    let page := Samples.rows.pageId 0
    let turns (ticket : Nat) (operation : Operation) : List ServiceAction :=
      [.serve (.perform (.begin ticket operation)), .serve (.perform (.turn ticket))]
    let before : List ServiceAction := [.serve (.perform (.begin 0 (.fetch ⟨1⟩ page .write)))]
    let middle := .serve (.edit 0 (.insert (Samples.row 7))) ::
      (turns 1 (.fetch ⟨2⟩ (Samples.rows.pageId 1) .read) ++
        turns 2 (.fetch ⟨2⟩ (Samples.rows.pageId 2) .read))
    let mark : ServiceAction := .serve (.edit 0 (.mark (some ⟨1⟩)))
    let second := [.call 0 (.flushPage page), .step 0, .step 0, .step 0] ++
      turns 3 (.insert ⟨1⟩ ⟨0⟩ (Samples.row 8))
    let rest : List ServiceAction :=
      [.call 1 (.flushAll [page, Samples.rows.pageId 2]), .step 1, .call 2 (.commit ⟨1⟩), .step 2,
        .step 1, .step 2, .step 1, .step 1, .step 1, .step 2, .step 2]
    let asked := (new start).serveEach before
    let fetched := asked.serve (.serve (.perform (.turn 0)))
    let marked := fetched.serveEach (middle ++ [mark])
    let changed := marked.serveEach second
    let last := changed.serveEach rest
    start.SetUp ∧ (new start).Along (Minds page) (before ++ [.serve (.perform (.turn 0))]) ∧
      asked.engine.tasks[0]? = some (.fetching ⟨1⟩ page .write) ∧
      fetched.Along (Grasps ⟨1⟩ page) (middle ++ mark :: second) ∧
      marked.Along (Trusts page 0) second ∧ changed.Filled ∧
      changed.Along (Forbears ⟨1⟩ page) rest ∧
      last.chores[2]? = some (.releasing ⟨1⟩) ∧ (last.step 2).2 = some (.ok ()) ∧
      last.database.pool.resident[page]? = none ∧
      ∃ final, last.database.pool.frames[0]? = some final ∧
        final.rows.map Row.fields = [[.int 7], [.int 8]] ∧
        (last.step 2).1.database.image? page = some final.encode := by
  intro start page turns before middle mark second rest asked fetched marked changed last
  have setUp : start.SetUp := Samples.setUp_table (by decide) 3
  have minds : (new start).Along (Minds page) (before ++ [.serve (.perform (.turn 0))]) := by
    decide +kernel
  have asks : asked.engine.tasks[0]? = some (.fetching ⟨1⟩ page .write) := by decide +kernel
  have gets : (asked.engine.turn 0).2 =
      .finished (.fetched 0 ⟨page, Samples.numbers, 16, [0], [none, none, none], none⟩) := by
    decide +kernel
  have grasps : fetched.Along (Grasps ⟨1⟩ page) (middle ++ mark :: second) := by decide +kernel
  have trusts : marked.Along (Trusts page 0) second := by decide +kernel
  have filled : changed.Filled := by decide +kernel
  have forbears : changed.Along (Forbears ⟨1⟩ page) rest := by decide +kernel
  have under : last.chores[2]? = some (.releasing ⟨1⟩) := by decide +kernel
  have answers : (last.step 2).2 = some (.ok ()) := by decide +kernel
  obtain ⟨final, held, written⟩ := marked_frame_is_committed setUp minds rfl asks gets rfl grasps
    rfl trusts rfl filled forbears rfl under rfl answers
  have gone : last.database.pool.resident[page]? = none := by decide +kernel
  have rows : (last.database.pool.frames[0]?.map fun page => page.rows.map Row.fields) =
      some [[.int 7], [.int 8]] := by decide +kernel
  rw [held] at rows
  exact ⟨setUp, minds, asks, grasps, trusts, filled, forbears, under, answers, gone, final, held,
    Option.some.inj rows, written⟩

/-- The pool is emptied between the fetch and the mark. The commit succeeds, and the row that the
frame holds is not on the disk. -/
theorem emptied_pool_loses_marked_frame :
    let start := Samples.table 2 1
    let page := Samples.rows.pageId 0
    let before : List ServiceAction := [.serve (.perform (.begin 0 (.fetch ⟨1⟩ page .write)))]
    let after : List ServiceAction :=
      [.call 0 (.flushAll [page]), .step 0, .step 0, .step 0,
        .serve (.edit 0 (.insert (Samples.row 7))), .serve (.edit 0 (.mark (some ⟨1⟩))),
        .call 1 (.commit ⟨1⟩), .step 1, .step 1, .step 1]
    let asked := (new start).serveEach before
    let last := (asked.serve (.serve (.perform (.turn 0)))).serveEach after
    start.SetUp ∧
      (new start).Along (Minds page) (before ++ .serve (.perform (.turn 0)) :: after) ∧
      asked.engine.tasks[0]? = some (.fetching ⟨1⟩ page .write) ∧
      (asked.engine.turn 0).2 =
        .finished (.fetched 0 ⟨page, Samples.numbers, 16, [0], [none, none, none], none⟩) ∧
      last.database.pool.locks.lockMode? ⟨1⟩ page = some .exclusive ∧
      (last.step 1).2 = some (.ok ()) ∧
      (last.step 1).1.database.image? page = some (Page.emptyImage 16) ∧
      ∃ final, last.database.pool.frames[0]? = some final ∧ final.owner = some ⟨1⟩ ∧
        final.rows.map Row.fields = [[.int 7]] ∧ final.encode ≠ Page.emptyImage 16 := by
  intro start page before after asked last
  have held : last.database.pool.frames[0]? = some
      ⟨page, Samples.numbers, 16, [1],
        [some ⟨Samples.numbers, [.int 7], some ⟨page, 0⟩⟩, none, none], some ⟨1⟩⟩ := by
    decide +kernel
  have setUp : start.SetUp := Samples.setUp_table (by decide) 1
  have unwritten : (last.step 1).1.database.image? page = some (Page.emptyImage 16) := by
    decide +kernel
  exact ⟨setUp, by decide +kernel, by decide +kernel, by decide +kernel, by decide +kernel,
    by decide +kernel, unwritten, _, held, rfl, by decide +kernel, by decide +kernel⟩

end Service

end RowStore
