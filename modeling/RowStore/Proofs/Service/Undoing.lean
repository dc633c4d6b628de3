import RowStore.Proofs.Database.Samples
import RowStore.Proofs.Service.Provenance
import RowStore.Proofs.Service.Saving

/-!
Undoing: a transaction that aborts leaves on the disk what was there before it, but for the pages
that a commit of its own wrote before it failed, or wrote in part. There is no older image of these,
and they stay as the commit left them. No page in the pool has anything of the transaction any more.
-/

set_option autoImplicit false

namespace RowStore

/-! ### Pages of the disk -/

theorem TableFile.length_of_image? {file : TableFile} {volume : Volume} {number : Nat}
    {bytes : List UInt8} (onDisk : file.image? volume number = some bytes) :
    bytes.length = file.pageSize := by
  have read := image?_eq_some.mp onDisk
  unfold PagedFile.read at read
  cases misfits : (file.pages volume).checkLength file.pageSize with
  | error fault =>
      rw [misfits] at read
      cases read
  | ok _ =>
      rw [misfits] at read
      dsimp only [bind, Except.bind] at read
      split at read
      · cases read
      · rename_i inside
        cases read
        rw [List.length_take, List.length_drop]
        have size : (file.pages volume).pageSize = file.pageSize := rfl
        omega

def Page.listing (page : Page) : List Change :=
  page.rows.filterMap (fun row => row.record.map (fun record => ⟨record, some row.fields⟩))

theorem Page.WellFormed.known_listing {page : Page} (wellFormed : page.WellFormed) :
    page.Known page.listing := by
  intro row member
  obtain ⟨slot, found⟩ := Page.mem_rows.mp member
  obtain ⟨_, _, recorded⟩ := wellFormed.rows slot row found
  refine ⟨⟨page.id, slot⟩, row.fields, recorded, List.mem_filterMap.mpr ⟨row, member, ?_⟩, .inl rfl⟩
  rw [recorded]
  rfl

def TableFile.listing (file : TableFile) (volume : Volume) (number : Nat) : List Change :=
  match (file.image? volume number).map (Page.decode (file.pageId number) file.schema) with
  | some (.ok page) => page.listing
  | _ => []

theorem Database.WritesFrame.image? {database next : Database} {file : TableFile}
    {number frame : Nat} {content : Page} {bytes : List UInt8}
    (writes : database.WritesFrame (file.pageId number) frame content next)
    (held : database.pool.frames[frame]? = some content) (names : database.catalog.Names file)
    (onDisk : file.image? database.volume number = some bytes) :
    file.image? next.volume number =
      some (if content.isDirty then content.encode else bytes) := by
  rcases writes.cases held with ⟨clean, rfl⟩ | ⟨dirty, other, registered, length, rfl⟩
  · rw [clean, if_neg Bool.false_ne_true]
    exact onDisk
  · cases names other registered
    rw [dirty, if_pos rfl]
    exact TableFile.image?_put_self length database.volume number

def ServiceAction.flushes : ServiceAction → Bool
  | .call _ chore => chore.ends?.isNone
  | _ => false

namespace Service

/-! ### What commits leave -/

def imprint? (service : Service) (page : PageId) : ServiceAction → Option (List UInt8)
  | .step ticket =>
      match service.chores[ticket]? with
      | some (.writing own frame _ _) =>
          if own = page ∧ (service.database.writeFrame own frame).isOk = true then
            (service.database.pool.frames[frame]?.filter Page.isDirty).map Page.encode
          else none
      | _ => none
  | .stepRefused ticket written =>
      match service.chores[ticket]? with
      | some (.writing own frame _ _) =>
          if own = page ∧
              (service.database.writeFrameInPart? own frame written).isSome = true then
            service.database.pool.frames[frame]?.map (fun content => content.encode.take written)
          else none
      | _ => none
  | _ => none

/-- The bytes that the page has on the disk after the action, if it had these before. -/
def leaves (service : Service) (page : PageId) (bytes : List UInt8) (action : ServiceAction) :
    List UInt8 :=
  match service.imprint? page action with
  | some front => front ++ bytes.drop front.length
  | none => bytes

/-- The bytes that the page has on the disk after the actions, if it had these before. -/
def residue (service : Service) (page : PageId) (bytes : List UInt8) :
    List ServiceAction → List UInt8
  | [] => bytes
  | action :: rest =>
      (service.serve action).residue page (service.leaves page bytes action) rest

/-- The action writes nothing of the page to the disk. -/
def PassesOver (page : PageId) (service : Service) (action : ServiceAction) : Prop :=
  service.imprint? page action = none

instance (page : PageId) (service : Service) (action : ServiceAction) :
    Decidable (PassesOver page service action) :=
  inferInstanceAs (Decidable (_ = _))

section

variable {service : Service} {action : ServiceAction} {transaction : TransactionId}
  {file : TableFile} {number : Nat} {bytes : List UInt8} {page : PageId}

theorem leaves_of_passesOver (passes : PassesOver page service action) (bytes : List UInt8) :
    service.leaves page bytes action = bytes := by
  unfold leaves
  rw [show service.imprint? page action = none from passes]

theorem residue_of_passesOver {actions : List ServiceAction}
    (passes : service.Along (PassesOver page) actions) (bytes : List UInt8) :
    service.residue page bytes actions = bytes := by
  induction actions generalizing service with
  | nil => rfl
  | cons action rest ih =>
      unfold residue
      rw [leaves_of_passesOver passes.1]
      exact ih passes.2

theorem passesOver_of_unwritten (unwritten : ¬service.Writes page action) :
    PassesOver page service action := by
  unfold PassesOver imprint?
  cases action with
  | step ticket =>
      dsimp only
      split
      · rename_i own frame rest purpose under
        rw [if_neg]
        rintro ⟨rfl, _⟩
        exact unwritten ⟨ticket, rfl, _, under, rfl⟩
      · rfl
  | stepRefused ticket written =>
      dsimp only
      split
      · rename_i own frame rest purpose under
        rw [if_neg]
        rintro ⟨rfl, _⟩
        exact unwritten ⟨ticket, rfl, _, under, rfl⟩
      · rfl
  | _ => rfl

private theorem Grounded.image?_step (grounded : service.Grounded)
    (names : service.database.catalog.Names file) {ticket frame : Nat} {rest : List PageId}
    {purpose : Purpose}
    (under : service.chores[ticket]? = some (.writing (file.pageId number) frame rest purpose))
    (onDisk : file.image? service.database.volume number = some bytes) :
    file.image? (service.serve (.step ticket)).database.volume number =
      some (service.leaves (file.pageId number) bytes (.step ticket)) := by
  obtain ⟨content, held, own⟩ := grounded.framed ticket _ frame rest purpose under
  have serves : (service.serve (.step ticket)).database =
      (Stage.advance service.database (.writing (file.pageId number) frame rest purpose)).1 := by
    change (service.step ticket).1.database = _
    rw [step_of_stage under, Service.database, engine_note]
    rfl
  rw [serves]
  unfold leaves imprint? Stage.advance
  dsimp only
  rw [under]
  dsimp only
  cases writes : service.database.writeFrame (file.pageId number) frame with
  | error fault =>
      rw [if_neg (fun both => Bool.false_ne_true both.2)]
      exact onDisk
  | ok next =>
      have written := (Database.writesFrame_of_ok held own writes).image? held names onDisk
      rw [if_pos ⟨rfl, rfl⟩, held, Option.filter_some]
      refine written.trans ?_
      cases dirty : content.isDirty with
      | false => rfl
      | true =>
          rw [dirty, if_pos rfl] at written
          have length : content.encode.length = bytes.length :=
            (TableFile.length_of_image? written).trans (TableFile.length_of_image? onDisk).symm
          rw [if_pos rfl, if_pos rfl, Option.map_some]
          dsimp only
          rw [length, List.drop_length, List.append_nil]

/-- A step that is cut short leaves the first bytes of its frame on the disk. -/
private theorem Grounded.image?_stepRefused (grounded : service.Grounded)
    (names : service.database.catalog.Names file) {ticket written frame : Nat}
    {rest : List PageId} {purpose : Purpose}
    (under : service.chores[ticket]? = some (.writing (file.pageId number) frame rest purpose))
    (onDisk : file.image? service.database.volume number = some bytes) :
    file.image? (service.serve (.stepRefused ticket written)).database.volume number =
      some (service.leaves (file.pageId number) bytes (.stepRefused ticket written)) := by
  obtain ⟨content, held, own⟩ := grounded.framed ticket _ frame rest purpose under
  unfold leaves imprint? Service.serve
  dsimp only
  rw [under]
  dsimp only
  cases refuses : service.stepRefused? ticket written with
  | none =>
      have idle : service.database.writeFrameInPart? (file.pageId number) frame written = none := by
        cases tears : service.database.writeFrameInPart? (file.pageId number) frame written with
        | none => rfl
        | some reached =>
            unfold stepRefused? at refuses
            simp [under, tears] at refuses
      rw [idle, if_neg (fun both => Bool.false_ne_true both.2)]
      exact onDisk
  | some next =>
      obtain ⟨_, _, _, _, reached, writing, tears, same⟩ := stepRefused?_eq_some refuses
      cases under.symm.trans writing
      rw [tears, if_pos ⟨rfl, rfl⟩, held, Option.getD_some, same (.ok ()), Service.database,
        engine_note]
      have strides := Database.tears_of_some held own tears
      cases strides with
      | tear _ heldAgain ownAgain dirty registered length =>
          cases held.symm.trans heldAgain
          cases names _ registered
          have number : content.id.number = number := congrArg PageId.number own
          subst number
          exact TableFile.image?_writeInPart length written onDisk

theorem Grounded.image?_leaves (grounded : service.Grounded) (proper : service.Proper action)
    (hosts : service.engine.Hosts file) (upholds : Upholds file service action)
    (onDisk : file.image? service.database.volume number = some bytes) :
    file.image? (service.serve action).database.volume number =
      some (service.leaves (file.pageId number) bytes action) := by
  by_cases writes : service.Writes (file.pageId number) action
  · obtain ⟨ticket, goesOn, stage, under, writes⟩ := writes
    cases stage with
    | writing own frame rest purpose =>
        cases writes
        cases action with
        | step stepped =>
            cases goesOn
            exact grounded.image?_step hosts.names under onDisk
        | stepRefused stepped written =>
            cases goesOn
            exact grounded.image?_stepRefused hosts.names under onDisk
        | _ => cases goesOn
    | _ => exact writes.elim
  · rw [leaves_of_passesOver (passesOver_of_unwritten writes)]
    exact grounded.image? proper hosts upholds writes onDisk

end

/-! ### Transactions that go on up to their abort -/

/-- The transaction goes on and keeps its lock on the page, whose file stays the only one at its
path. Pages are written back by commits only. -/
structure Persists (transaction : TransactionId) (file : TableFile) (number : Nat)
    (service : Service) (action : ServiceAction) : Prop where
  inTurn : service.InTurn action
  goesOn : ¬service.Frees transaction action
  upholds : Upholds file service action
  unreleased : ¬action.Releases (file.pageId number)
  unflushed : action.flushes = false

instance (transaction : TransactionId) (file : TableFile) (number : Nat) (service : Service)
    (action : ServiceAction) : Decidable (Persists transaction file number service action) :=
  decidable_of_iff (service.InTurn action ∧ ¬service.Frees transaction action ∧
      Upholds file service action ∧ ¬action.Releases (file.pageId number) ∧
        action.flushes = false)
    ⟨fun all => ⟨all.1, all.2.1, all.2.2.1, all.2.2.2.1, all.2.2.2.2⟩, fun persists =>
      ⟨persists.inTurn, persists.goesOn, persists.upholds, persists.unreleased,
        persists.unflushed⟩⟩

/-- Every chore under way ends a transaction. -/
def Unflushed (service : Service) : Prop :=
  ∀ entry ∈ service.chores.toList, entry.2.ends?.isSome = true

instance (service : Service) : Decidable service.Unflushed :=
  inferInstanceAs (Decidable (∀ entry ∈ service.chores.toList, entry.2.ends?.isSome = true))

structure Persisting (service : Service) (transaction : TransactionId) (file : TableFile)
    (number : Nat) (bytes : List UInt8) : Prop where
  grounded : service.Grounded
  attended : service.Attended
  hosts : service.engine.Hosts file
  holds : service.database.Holds transaction (file.pageId number)
  /-- It has not forgotten that it means to write the page, unless it is about to end. -/
  noted : file.pageId number ∈ service.database.pool.writtenBy transaction ∨
    ∃ ticket : Nat, service.chores[ticket]? = some (.releasing transaction)
  ending : ∀ (ticket : Nat) stage, service.chores[ticket]? = some stage →
    stage.ends?.isSome = true
  onDisk : file.image? service.database.volume number = some bytes

/-- How far the chore came that aborts the transaction. Once it has dropped the transaction's pages,
the page stays out of the pool. -/
inductive Withdraws (service : Service) (transaction : TransactionId) (page : PageId)
    (ticket : Nat) : Prop where
  | begins (pages : List PageId)
      (under : service.chores[ticket]? = some (.visiting [] (.complete transaction pages)))
  | forgets (under : service.chores[ticket]? = some (.forgetting transaction))
      (absent : service.database.pool.residentFrame? page = none)
  | releases (under : service.chores[ticket]? = some (.releasing transaction))
      (absent : service.database.pool.residentFrame? page = none)

section

variable {service : Service} {action : ServiceAction} {transaction : TransactionId}
  {file : TableFile} {number : Nat} {bytes : List UInt8} {page : PageId} {ticket : Nat}

private theorem ending_serve (unflushed : action.flushes = false)
    (ending : ∀ (ticket : Nat) stage, service.chores[ticket]? = some stage →
      stage.ends?.isSome = true) {stage : Stage}
    (under : (service.serve action).chores[ticket]? = some stage) :
    stage.ends?.isSome = true := by
  cases brings_serve under with
  | stays before _ => exact ending ticket stage before
  | begins chore calls same =>
      subst calls same
      rw [ends?_stage]
      cases ends : chore.ends? with
      | some _ => rfl
      | none =>
          change chore.ends?.isNone = false at unflushed
          rw [ends] at unflushed
          cases unflushed
  | advances before _ was goesOn =>
      rw [ends?_advance goesOn]
      exact ending ticket before was

theorem Persisting.serve (persisting : service.Persisting transaction file number bytes)
    (persists : Persists transaction file number service action) :
    (service.serve action).Persisting transaction file number
      (service.leaves (file.pageId number) bytes action) := by
  obtain ⟨⟨proper, orderly⟩, goesOn, upholds, unreleased, unflushed⟩ := persists
  have grounded := persisting.grounded
  have attended := persisting.attended
  refine ⟨(grounded.serve proper).2, attended.serve grounded proper orderly,
    grounded.hosts proper upholds persisting.hosts,
    grounded.holds attended proper unreleased goesOn persisting.holds, ?_,
    fun _ _ => ending_serve unflushed persisting.ending,
    grounded.image?_leaves proper persisting.hosts upholds persisting.onDisk⟩
  rcases persisting.noted with noted | ⟨ticket, under⟩
  · exact grounded.noted proper noted
  · refine .inr ⟨ticket, stays proper under ?_ nofun⟩
    rintro rfl
    exact goesOn under

theorem Persisting.serveEach (persisting : service.Persisting transaction file number bytes)
    {actions : List ServiceAction}
    (persists : service.Along (Persists transaction file number) actions) :
    (service.serveEach actions).Persisting transaction file number
      (service.residue (file.pageId number) bytes actions) := by
  induction actions generalizing service bytes with
  | nil => exact persisting
  | cons action rest ih => exact ih (persisting.serve persists.1) persists.2

private theorem Persisting.ends_of_visits
    (persisting : service.Persisting transaction file number bytes) {stage : Stage}
    (under : service.chores[ticket]? = some stage) (visits : stage.Visits (file.pageId number)) :
    stage.ends? = some transaction ∧
      file.pageId number ∈ service.database.pool.writtenBy transaction := by
  have steady := persisting.grounded.engine.steady
  have ending := persisting.ending ticket stage under
  have drops : ∃ other pages, stage.drops? = some (other, pages) := by
    have purposeDrops {purpose : Purpose} (ending : purpose.ends?.isSome = true) :
        ∃ other pages, purpose.drops? = some (other, pages) := by
      cases purpose with
      | complete other pages => exact ⟨other, pages, rfl⟩
      | _ => cases ending
    cases stage with
    | visiting _ _ => exact purposeDrops ending
    | writing _ _ _ _ => exact purposeDrops ending
    | _ => exact visits.elim
  obtain ⟨other, pages, drops⟩ := drops
  have member := persisting.attended.covers ticket stage other pages under drops _ visits
  have noted := (persisting.attended.noted ticket stage other pages under drops _).mp member
  cases persisting.holds.eq_of_mem steady noted
  exact ⟨ends?_of_drops? drops, noted⟩

private theorem Grounded.not_permits (grounded : service.Grounded)
    (holds : service.database.Holds transaction page) {task : Task}
    (own : task.request.page = page) (other : task.request.transaction ≠ transaction) :
    ¬(service.engine.checked ticket task).pool.locks.Permits task.request := by
  rintro ⟨held, mode, _⟩
  obtain ⟨kept, alone, covers⟩ :=
    LockTable.lockMode?_acquire_covers ticket task.request holds.alone
  cases covers rfl
  rw [own] at mode
  have exclusive := (grounded.engine.checked ticket task).exclusive page
  exact other (exclusive.eq_of_modeOf? alone mode)

private theorem Grounded.residentFrame?_ungranted (grounded : service.Grounded)
    {task : Task} (found : service.engine.tasks[ticket]? = some task)
    (plain : action.plain? = some (.perform (.turn ticket)))
    (ungranted : ¬(service.engine.checked ticket task).pool.locks.Permits task.request) :
    (service.serve action).database.pool.residentFrame? page =
      service.database.pool.residentFrame? page := by
  cases action with
  | serve turning =>
      cases plain
      have same : (service.serve (.serve (.perform (.turn ticket)))).database =
          (service.engine.turn ticket).1.database := rfl
      rw [same]
      cases grounded.engine.turnsTo found with
      | asleep comes _ =>
          rw [comes]
          rfl
      | refused fault comes _ =>
          rw [comes, Engine.database_note]
          rfl
      | granted _ _ permits => exact absurd permits ungranted
  | turnRefused turned refusal cause =>
      cases plain
      unfold Service.serve
      dsimp only
      cases refuses : service.engine.turnRefused? ticket refusal cause with
      | none => rfl
      | some answer =>
          obtain ⟨_, _, again, granted, _, _⟩ := turnRefused?_eq_some refuses
          cases found.symm.trans again
          exact absurd ((grounded.engine.answers found).granted granted) ungranted
  | _ => cases plain

private theorem Grounded.absent (grounded : service.Grounded) (proper : service.Proper action)
    (orderly : service.Orderly action) (ends : service.Ending transaction)
    (holds : service.database.Holds transaction page)
    (absent : service.database.pool.residentFrame? page = none) :
    (service.serve action).database.pool.residentFrame? page = none := by
  by_cases turns : ∃ (ticket : Nat) (task : Task), action.plain? = some (.perform (.turn ticket)) ∧
      service.engine.tasks[ticket]? = some task ∧ task.request.page = page
  · obtain ⟨ticket, task, plain, found, own⟩ := turns
    have other : task.request.transaction ≠ transaction := by
      rintro rfl
      refine orderly task.request.transaction ?_ ends
      cases action with
      | serve turning =>
          cases plain
          exact congrArg (Option.map fun task => task.request.transaction) found
      | turnRefused turned refusal cause =>
          cases plain
          exact congrArg (Option.map fun task => task.request.transaction) found
      | _ => cases plain
    rw [grounded.residentFrame?_ungranted found plain (grounded.not_permits holds own other)]
    exact absent
  · refine grounded.serve_keeps proper
      (fun current => current.pool.residentFrame? page = none) ?_ absent
    intro current next stride steady _ absent makes strides
    rw [strides.residentFrame? steady, absent]
    cases stride with
    | move move =>
        cases move with
        | arrive content =>
            refine if_neg ?_
            rintro rfl
            cases makes with
            | plain same makes _ =>
                cases makes with
                | turn found _ makes =>
                    cases makes with
                    | arrive own => exact turns ⟨_, _, same, found, own.symm⟩
                | ending _ impossible => cases impossible
        | evict gone => exact ite_self none
        | drop gone => exact ite_self none
        | _ => rfl
    | _ => rfl

private theorem Withdraws.chore (withdraws : service.Withdraws transaction page ticket) :
    ∃ stage, service.chores[ticket]? = some stage ∧ stage.ends? = some transaction ∧
      ∀ other, ¬stage.Visits other := by
  cases withdraws with
  | begins pages under => exact ⟨_, under, rfl, fun _ => List.not_mem_nil⟩
  | forgets under _ => exact ⟨_, under, rfl, fun _ => id⟩
  | releases under _ => exact ⟨_, under, rfl, fun _ => id⟩

private theorem Withdraws.serve (withdraws : service.Withdraws transaction page ticket)
    (grounded : service.Grounded) (attended : service.Attended) (inTurn : service.InTurn action)
    (goesOn : ¬service.Frees transaction action)
    (holds : service.database.Holds transaction page)
    (noted : page ∈ service.database.pool.writtenBy transaction ∨
      ∃ ticket : Nat, service.chores[ticket]? = some (.releasing transaction)) :
    (service.serve action).Withdraws transaction page ticket := by
  obtain ⟨proper, orderly⟩ := inTurn
  obtain ⟨stage, under, ends, _⟩ := withdraws.chore
  have absent := grounded.absent proper orderly ⟨ticket, stage, under, ends⟩ holds
  by_cases steps : action = .step ticket
  · subst steps
    have goes {old next : Stage} (was : service.chores[ticket]? = some old)
        (onwards : (old.advance service.database).2 = .onwards next) :
        (service.serve (.step ticket)).chores[ticket]? = some next := by
      change (service.step ticket).1.chores[ticket]? = _
      rw [step_of_stage was, chores_note, if_pos rfl, onwards]
    cases withdraws with
    | begins pages was =>
        refine .forgets (goes was rfl) ?_
        have written : page ∈ service.database.pool.writtenBy transaction := by
          refine noted.resolve_right ?_
          rintro ⟨other, releases⟩
          cases attended.single ticket other _ _ transaction was releases rfl rfl
          cases was.symm.trans releases
        have member := (attended.noted ticket _ transaction pages was rfl page).mpr written
        change (service.step ticket).1.database.pool.residentFrame? page = none
        rw [step_of_stage was, Service.database, engine_note]
        exact (Pool.residentFrame?_discardEach _ pages page).trans (if_pos member)
    | forgets was gone => exact .releases (goes was rfl) (absent gone)
    | releases was _ => exact absurd was goesOn
  · cases withdraws with
    | begins pages was => exact .begins pages (stays proper was steps (by rintro _ _ _ _ ⟨⟩))
    | forgets was gone => exact .forgets (stays proper was steps (by rintro _ _ _ _ ⟨⟩)) (absent gone)
    | releases was gone => exact .releases (stays proper was steps (by rintro _ _ _ _ ⟨⟩)) (absent gone)

private theorem Persisting.withdrawsEach
    (persisting : service.Persisting transaction file number bytes)
    (withdraws : service.Withdraws transaction (file.pageId number) ticket)
    {actions : List ServiceAction}
    (persists : service.Along (Persists transaction file number) actions) :
    (service.serveEach actions).Persisting transaction file number bytes ∧
      (service.serveEach actions).Withdraws transaction (file.pageId number) ticket := by
  refine persists.keeps (fun service => service.Persisting transaction file number bytes ∧
    service.Withdraws transaction (file.pageId number) ticket) ?_ ⟨persisting, withdraws⟩
  rintro service action ⟨persisting, withdraws⟩ persists
  have unwritten : ¬service.Writes (file.pageId number) action := by
    rintro ⟨other, _, stage, under, writes⟩
    have visits : stage.Visits (file.pageId number) := by
      cases stage with
      | writing _ _ _ _ => exact .inl writes.symm
      | _ => exact writes.elim
    obtain ⟨ends, _⟩ := persisting.ends_of_visits under visits
    obtain ⟨own, underOwn, endsOwn, idle⟩ := withdraws.chore
    cases persisting.attended.single ticket other own stage transaction underOwn under endsOwn ends
    cases underOwn.symm.trans under
    exact idle _ visits
  have next := persisting.serve persists
  rw [leaves_of_passesOver (passesOver_of_unwritten unwritten)] at next
  exact ⟨next, withdraws.serve persisting.grounded persisting.attended persists.inTurn
    persists.goesOn persisting.holds persisting.noted⟩

private theorem Grounded.persisting (grounded : service.Grounded) (attended : service.Attended)
    (hosts : service.engine.Hosts file)
    (reserved : service.database.Reserved (file.pageId number)) (unflushed : service.Unflushed)
    (onDisk : file.image? service.database.volume number = some bytes)
    (fresh : file.pageId number ∉ service.database.pool.writtenBy transaction)
    (persists : Persists transaction file number service action)
    (noted : file.pageId number ∈
      (service.serve action).database.pool.writtenBy transaction) :
    (service.serve action).Persisting transaction file number bytes := by
  obtain ⟨⟨proper, orderly⟩, goesOn, upholds, unreleased, unflushedNow⟩ := persists
  have reservedNext := grounded.reserved attended proper unreleased reserved
  refine ⟨(grounded.serve proper).2, attended.serve grounded proper orderly,
    grounded.hosts proper upholds hosts, ⟨reservedNext, reservedNext transaction noted⟩,
    .inl noted, fun ticket stage => ending_serve unflushedNow ?_, ?_⟩
  · intro other before under
    exact unflushed (other, before) (Std.ExtTreeMap.mem_toList_iff_getElem?_eq_some.mpr under)
  · -- It comes to that in a turn, which writes nothing.
    refine grounded.image? proper hosts upholds ?_ onDisk
    rintro ⟨writer, writes, _⟩
    refine grounded.serve_keeps proper
      (fun current => file.pageId number ∉ current.pool.writtenBy transaction) ?_ fresh noted
    intro current next stride _ _ unnoted makes strides member
    rcases strides.mem_writtenBy member with before | ⟨rfl, _⟩
    · exact unnoted before
    · cases makes with
      | plain same _ _ =>
          cases action with
          | step _ => cases same
          | stepRefused _ _ => cases same
          | _ => cases writes

/-! ### After the end -/

/-- Once the transaction has given back its locks, the page has nothing but what is on the disk. -/
private theorem Persisting.chronicled
    (persisting : service.Persisting transaction file number bytes)
    (under : service.chores[ticket]? = some (.releasing transaction))
    (absent : service.database.pool.residentFrame? (file.pageId number) = none) :
    let aborted := service.serve (.step ticket)
    file.image? aborted.database.volume number = some bytes ∧
      aborted.database.pool.isCached (file.pageId number) = false ∧
        aborted.Chronicled file number (.since (file.listing aborted.database.volume number)) := by
  intro aborted
  have proper : service.Proper (.step ticket) := service.proper_step ticket
  have comes : aborted.database = service.database.releaseAll transaction :=
    database_releasing under
  have grounded : aborted.Grounded := (persisting.grounded.serve proper).2
  have upholds : Upholds file service (.step ticket) := by
    refine ⟨?_, by rintro ⟨⟩, by rintro _ ⟨⟩⟩
    change aborted.database.catalog.Names file
    rw [comes]
    exact persisting.hosts.names
  have onDisk : file.image? aborted.database.volume number = some bytes := by
    rw [comes]
    exact persisting.onDisk
  have gone : aborted.database.pool.residentFrame? (file.pageId number) = none := by
    rw [comes]
    exact absent
  refine ⟨onDisk, grounded.engine.steady.sound.isCached_eq_false gone, grounded,
    persisting.grounded.hosts proper upholds persisting.hosts,
    ⟨Option.isSome_iff_exists.mpr ⟨bytes, onDisk⟩, ?_, ?_, .inl ?_⟩, by rintro _ ⟨⟩, by rintro _ ⟨⟩, ?_⟩
  · rintro other rfl frame content found
    cases gone.symm.trans found
  · rintro other rfl image content present read
    unfold Chronicle.since TableFile.listing
    dsimp only
    rw [present, Option.map_some, read]
    obtain ⟨wellFormed, _⟩ := Page.wellFormed_of_decode read
    exact wellFormed.known_listing
  · rintro other rfl
    exact Option.isSome_iff_exists.mpr ⟨bytes, onDisk⟩
  · intro other frame rest purpose writing
    -- The page is to be written by none but the transaction, which is through with that.
    have before : service.chores[other]? =
        some (.writing (file.pageId number) frame rest purpose) := by
      cases brings_serve writing with
      | stays was _ => exact was
      | begins chore calls _ => cases calls
      | advances old steps was goesOn =>
          cases steps
          cases under.symm.trans was
          cases goesOn
    obtain ⟨ends, _⟩ := persisting.ends_of_visits before (.inl rfl)
    cases persisting.attended.single ticket other _ _ transaction under before rfl ends
    cases under.symm.trans before

end

/-- A transaction that aborts undoes what it did to a page, if no commit of its own wrote the page:
the disk has the bytes that were there before the transaction came to mean to write the page. What
commits wrote before they failed stays on the disk, be it the whole page or only its first bytes.
The page is not in the pool any more, and operations that begin later show only rows of it that are
in these bytes or were stored since, as long as it is not written in part. The lock on the page is
not given back before, nobody writes pages back without a commit, and the file stays the only one at
its path. -/
theorem abort_undoes_unless_failed_commit_wrote {start : Database} (setUp : start.SetUp)
    {history : List ServiceAction} {service last : Service} {transaction : TransactionId}
    {first : ServiceAction} {rest after : List ServiceAction} {aborting : Nat} {file : TableFile}
    {number : Nat} {original : List UInt8} (inTurn : (new start).Along InTurn history)
    (reaches : (new start).serveEach history = service)
    (unreleased : ∀ action ∈ history, ¬action.Releases (file.pageId number))
    (unflushed : service.Unflushed) (hosts : service.engine.Hosts file)
    (onDisk : file.image? service.database.volume number = some original)
    (fresh : file.pageId number ∉ service.database.pool.writtenBy transaction)
    (persists : service.Along (Persists transaction file number)
      (first :: (rest ++ .call aborting (.abort transaction) :: after)))
    (noted : file.pageId number ∈ (service.serve first).database.pool.writtenBy transaction)
    (ends : (service.serve first).serveEach
      (rest ++ .call aborting (.abort transaction) :: after) = last)
    (under : last.chores[aborting]? = some (.releasing transaction)) :
    let aborted := last.serve (.step aborting)
    ((service.serve first).Along (PassesOver (file.pageId number)) rest →
      file.image? aborted.database.volume number = some original) ∧
    file.image? aborted.database.volume number =
      some ((service.serve first).residue (file.pageId number) original rest) ∧
    aborted.database.pool.isCached (file.pageId number) = false ∧
    ∀ later now chronicle,
      (Chronicle.since (file.listing aborted.database.volume number)).AllowsEach file number
        aborted later → aborted.serveEach later = now →
      (Chronicle.since (file.listing aborted.database.volume number)).onwardsEach aborted later =
        chronicle →
      ∀ action ticket outcome, chronicle.Allows file number now action →
        now.outcome? action = some (ticket, outcome) → ticket ∈ chronicle.ticketsOnwards action →
          (∀ scan rows ending, outcome = .scanned scan rows ending → scan.file.id = file.id →
            ∀ row ∈ rows, ∀ record, row.record = some record → record.page = file.pageId number →
              row.Known (chronicle.onwards now action).changes) ∧
          ∀ frame content, outcome = .fetched frame content → content.id = file.pageId number →
            content.Known (chronicle.onwards now action).changes := by
  intro aborted
  obtain ⟨grounded, attended⟩ := inTurn_serveEach inTurn (grounded_new setUp) (attended_new start)
  have reserved := (grounded_new setUp).reserved_each (attended_new start) inTurn unreleased
    (reserved_new setUp (file.pageId number))
  rw [reaches] at grounded attended reserved
  have begun := grounded.persisting attended hosts reserved unflushed onDisk fresh persists.1 noted
  obtain ⟨persistsRest, persistsCall, persistsAfter⟩ := along_append.mp persists.2
  have persisting := begun.serveEach persistsRest
  have called := persisting.serve persistsCall
  have withdraws : (((service.serve first).serveEach rest).serve
      (.call aborting (.abort transaction))).Withdraws transaction (file.pageId number)
        aborting := .begins _ Std.ExtTreeMap.getElem?_insert_self
  obtain ⟨persistingLast, withdrawsLast⟩ := called.withdrawsEach withdraws persistsAfter
  rw [serveEach_append] at ends
  have comes : (((service.serve first).serveEach rest).serve
      (.call aborting (.abort transaction))).serveEach after = last := ends
  rw [comes] at persistingLast withdrawsLast
  have absent : last.database.pool.residentFrame? (file.pageId number) = none := by
    cases withdrawsLast with
    | begins _ other => cases under.symm.trans other
    | forgets other _ => cases under.symm.trans other
    | releases _ absent => exact absent
  obtain ⟨written, uncached, chronicled⟩ := persistingLast.chronicled under absent
  refine ⟨?_, written, uncached, ?_⟩
  · intro passes
    have same := residue_of_passesOver passes original
    refine written.trans (congrArg some ?_)
    exact same
  · intro later now chronicle allows comes tells action ticket outcome allowsNext shown began
    have onwards := chronicled.serveEach allows
    rw [comes, tells] at onwards
    have traced := onwards.shows allowsNext shown began
    constructor
    · intro scan rows ending same own row member record recorded onPage
      subst same
      obtain ⟨_, again, _, known⟩ := traced own row (List.mem_append_left _ member)
      cases recorded.symm.trans again
      exact known (congrArg PageId.number onPage)
    · intro frame content same onPage
      subst same
      exact traced (congrArg PageId.table onPage) (congrArg PageId.number onPage)

/-- A transaction stores a row in each of two tables, one of which is forgotten. Its commit writes
the page of the other and fails, and it aborts. The page of the table that was forgotten has the
bytes that it had before, and a scan shows its old row alone when the table is registered again. -/
theorem abort_undoes_unless_failed_commit_wrote_beside_written_page :
    let start := Samples.tables 4 1 1
    let page := Samples.right.pageId 0
    let turns (ticket : Nat) (operation : Operation) : List ServiceAction :=
      [.serve (.perform (.begin ticket operation)), .serve (.perform (.turn ticket))]
    let history := turns 0 (.insert ⟨2⟩ ⟨1⟩ (Samples.row 5)) ++ (.call 0 (.commit ⟨2⟩) ::
      (List.replicate 5 (.step 0) ++ (turns 1 (.insert ⟨1⟩ ⟨0⟩ (Samples.row 7)) ++
        [.serve (.perform (.begin 2 (.insert ⟨1⟩ ⟨1⟩ (Samples.row 8))))])))
    let service := (new start).serveEach history
    let first : ServiceAction := .serve (.perform (.turn 2))
    let before : List ServiceAction := [.serve .clearCatalog,
      .serve (.register Samples.left "left"), .call 1 (.commit ⟨1⟩), .step 1, .step 1, .step 1]
    let rest := before ++ [.step 1]
    let last := (service.serve first).serveEach
      (rest ++ .call 2 (.abort ⟨1⟩) :: [.step 2, .step 2])
    let aborted := last.serve (.step 2)
    let later : List ServiceAction := [.serve (.register Samples.right "right"),
      .serve (.perform (.begin 3 (.scan (Scan.start Samples.right ⟨3⟩) 9)))]
    let now := aborted.serveEach later
    let known := Chronicle.since (Samples.right.listing aborted.database.volume 0)
    let chronicle := known.onwardsEach aborted later
    let row : Row := ⟨Samples.numbers, [.int 5], some ⟨page, 0⟩⟩
    let original : List UInt8 := [1, 0, 0, 0, 5] ++ List.replicate 11 0
    start.SetUp ∧ (new start).Along InTurn history ∧ (∀ action ∈ history, ¬action.Releases page) ∧
      service.Unflushed ∧ service.engine.Hosts Samples.right ∧
      Samples.right.image? service.database.volume 0 = some original ∧
      page ∉ service.database.pool.writtenBy ⟨1⟩ ∧
      service.Along (Persists ⟨1⟩ Samples.right 0)
        (first :: (rest ++ .call 2 (.abort ⟨1⟩) :: [.step 2, .step 2])) ∧
      page ∈ (service.serve first).database.pool.writtenBy ⟨1⟩ ∧
      last.chores[2]? = some (.releasing ⟨1⟩) ∧
      (service.serve first).Along (PassesOver page) rest ∧
      (((service.serve first).serveEach before).step 1).2 = some (.error (.tableNotFound ⟨1⟩)) ∧
      Samples.left.image? aborted.database.volume 0 =
        some ([1, 0, 0, 0, 7] ++ List.replicate 11 0) ∧
      Samples.right.image? aborted.database.volume 0 = some original ∧
      aborted.database.pool.isCached page = false ∧
      known.AllowsEach Samples.right 0 aborted later ∧
      chronicle.Allows Samples.right 0 now (.serve (.perform (.turn 3))) ∧
      now.outcome? (.serve (.perform (.turn 3))) =
        some (3, .scanned ⟨Samples.right, ⟨3⟩, 1, []⟩ [row] (some .atEnd)) ∧
      row.Known (chronicle.onwards now (.serve (.perform (.turn 3)))).changes := by
  intro start page turns history service first before rest last aborted later now known chronicle
    row original
  have setUp : start.SetUp := Samples.setUp_tables (by decide) 1 1
  have inTurn : (new start).Along InTurn history := by decide +kernel
  have unreleased : ∀ action ∈ history, ¬action.Releases page := by decide +kernel
  have unflushed : service.Unflushed := by decide +kernel
  have hosts : service.engine.Hosts Samples.right := by decide +kernel
  have onDisk : Samples.right.image? service.database.volume 0 = some original := by
    decide +kernel
  have fresh : page ∉ service.database.pool.writtenBy ⟨1⟩ := by decide +kernel
  have persists : service.Along (Persists ⟨1⟩ Samples.right 0)
      (first :: (rest ++ .call 2 (.abort ⟨1⟩) :: [.step 2, .step 2])) := by decide +kernel
  have noted : page ∈ (service.serve first).database.pool.writtenBy ⟨1⟩ := by decide +kernel
  have under : last.chores[2]? = some (.releasing ⟨1⟩) := by decide +kernel
  have passes : (service.serve first).Along (PassesOver page) rest := by decide +kernel
  have fails : (((service.serve first).serveEach before).step 1).2 =
      some (.error (.tableNotFound ⟨1⟩)) := by decide +kernel
  have written : Samples.left.image? aborted.database.volume 0 =
      some ([1, 0, 0, 0, 7] ++ List.replicate 11 0) := by decide +kernel
  have allows : known.AllowsEach Samples.right 0 aborted later := by decide +kernel
  have turning : chronicle.Allows Samples.right 0 now (.serve (.perform (.turn 3))) := by
    decide +kernel
  have shows : now.outcome? (.serve (.perform (.turn 3))) =
      some (3, .scanned ⟨Samples.right, ⟨3⟩, 1, []⟩ [row] (some .atEnd)) := by decide +kernel
  obtain ⟨undone, _, uncached, showsKnown⟩ := abort_undoes_unless_failed_commit_wrote setUp inTurn
    rfl unreleased unflushed hosts onDisk fresh persists noted rfl under
  obtain ⟨rows, _⟩ := showsKnown later now chronicle allows rfl rfl _ _ _ turning shows
    (by decide +kernel)
  exact ⟨setUp, inTurn, unreleased, unflushed, hosts, onDisk, fresh, persists, noted, under, passes,
    fails, written, undone passes, uncached, allows, turning, shows,
    rows _ _ _ rfl rfl row List.mem_cons_self _ rfl rfl⟩

/-- A transaction stores a row in each of four tables and aborts when its commit has failed, since
the disk gave up after one byte of the second table's page. Nothing is written back in between but by
commits. Yet the page of the first table keeps the row, since the failed commit had written it, and
that of the second table has a row that nobody stored. The page of the third table, whose lock was
given back early, keeps the row as well: somebody else committed it. The file of the fourth table was
made anew. And a page of the fifth table that the transaction had asked for to read, and then
changed, is shown to others with the change. -/
theorem abort_leaves_page_that_failed_commit_wrote :
    let original : List UInt8 := [1, 0, 0, 0, 5] ++ List.replicate 11 0
    let paths := ["written", "torn", "released", "remade", "read"]
    let fresh := Samples.bare 8 (fun path => ⟨paths.idxOf path⟩)
      (paths.foldl (fun volume path => volume.write path original) Volume.empty)
    let start : Database := paths.foldl
      (fun database path => (database.openTable path Samples.numbers path).1) fresh
    let table (number : Nat) (path : String) : TableFile := ⟨⟨number⟩, path, Samples.numbers, 16⟩
    let turns (ticket : Nat) (operation : Operation) : List ServiceAction :=
      [.serve (.perform (.begin ticket operation)), .serve (.perform (.turn ticket))]
    let stores (ticket table : Nat) (transaction : TransactionId) : List ServiceAction :=
      turns ticket (.insert transaction ⟨table⟩ (Samples.row 7))
    let history := stores 0 0 ⟨1⟩ ++ (stores 1 1 ⟨1⟩ ++ (stores 2 2 ⟨1⟩ ++
      (.serve (.release ⟨1⟩ ⟨⟨2⟩, 0⟩) :: (stores 3 2 ⟨2⟩ ++ (.call 0 (.commit ⟨2⟩) ::
        (List.replicate 5 (.step 0) ++ (stores 4 3 ⟨1⟩ ++
          (.serve (.createTable "remade" Samples.numbers "remade") ::
            .serve (.append (table 3 "remade")) :: (turns 5 (.fetch ⟨1⟩ ⟨⟨4⟩, 0⟩ .read) ++
              [.serve (.edit 4 (.insert (Samples.row 7))),
                .serve (.edit 4 (.mark (some ⟨1⟩)))])))))))))
    let committing : List ServiceAction :=
      [.call 0 (.commit ⟨1⟩), .step 0, .step 0, .step 0, .stepRefused 0 1]
    let aborted := (new start).serveEach (history ++ (committing ++
      [.call 0 (.abort ⟨1⟩), .step 0, .step 0, .step 0]))
    let asked := aborted.serve (.serve (.perform (.begin 6 (.fetch ⟨3⟩ ⟨⟨4⟩, 0⟩ .read))))
    let stored (slot : Nat) (value : Int32) : Row :=
      ⟨Samples.numbers, [.int value], some ⟨⟨⟨4⟩, 0⟩, slot⟩⟩
    start.SetUp ∧ (new start).Along InTurn (history ++ (committing ++
        [.call 0 (.abort ⟨1⟩), .step 0, .step 0, .step 0])) ∧
      (∀ action ∈ history, action.flushes = false) ∧
      (∀ path ∈ paths, (table (paths.idxOf path) path).image? start.volume 0 = some original) ∧
      ((new start).serveEach (history ++ committing)).chores.isEmpty = true ∧
      ¬((new start).serveEach (history ++ committing)).Ending ⟨1⟩ ∧
      (table 0 "written").image? aborted.database.volume 0 =
        some ([3, 0, 0, 0, 5, 0, 0, 0, 7] ++ List.replicate 7 0) ∧
      (table 1 "torn").image? aborted.database.volume 0 =
        some ([3, 0, 0, 0, 5] ++ List.replicate 11 0) ∧
      (table 2 "released").image? aborted.database.volume 0 =
        some ([7, 0, 0, 0, 5, 0, 0, 0, 7, 0, 0, 0, 7] ++ List.replicate 3 0) ∧
      (table 3 "remade").image? aborted.database.volume 0 = some (Page.emptyImage 16) ∧
      (asked.engine.turn 6).2 = .finished (.fetched 4 ⟨⟨⟨4⟩, 0⟩, Samples.numbers, 16, [3],
        [some (stored 0 5), some (stored 1 7), none], some ⟨1⟩⟩) := by
  intro original paths fresh start table turns stores history committing aborted asked stored
  have setUp : start.SetUp :=
    (((((Samples.setUp_bare (by decide) _ _).openTable _ _ _).openTable _ _ _).openTable _ _ _
      ).openTable _ _ _).openTable _ _ _
  exact ⟨setUp, by decide +kernel, by decide +kernel, by decide +kernel, by decide +kernel,
    by decide +kernel, by decide +kernel, by decide +kernel, by decide +kernel, by decide +kernel,
    by decide +kernel⟩

end Service

end RowStore
