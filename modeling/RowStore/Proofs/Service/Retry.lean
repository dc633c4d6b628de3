import RowStore.Proofs.Database.Samples
import RowStore.Proofs.Lock.Leftovers
import RowStore.Proofs.Service.Saving

/-!
Retries: a commit that fails has written some of the transaction's pages, one of them perhaps in
part, and changes nothing else. Whoever waits and commits again leaves on the disk what the first
commit would have left.
-/

set_option autoImplicit false

namespace RowStore

namespace Database

/-! ### Writing one page -/

structure WritesOne (database : Database) (page : PageId) (next : Database) : Prop where
  kept : ∃ frames volume, next = { database with
    pool := { database.pool with frames := frames }
    volume := volume }
  frames : ∀ (frame : Nat) content, database.pool.frames[frame]? = some content →
    next.pool.frames[frame]? = some content ∨
      content.id = page ∧ next.pool.frames[frame]? = some (content.mark none)
  images : ∀ (file : TableFile) number bytes, database.numbering file.path = file.id →
    database.catalog.Names file → file.image? database.volume number = some bytes →
      file.image? next.volume number = some bytes ∨
        file.pageId number = page ∧ ∃ (frame : Nat) (content : Page),
          database.pool.frames[frame]? = some content ∧ content.id = page ∧
            content.isDirty = true ∧ next.pool.frames[frame]? = some (content.mark none) ∧
              file.image? next.volume number = some content.encode

structure TearsOne (database : Database) (page : PageId) (next : Database) : Prop where
  kept : ∃ volume, next = { database with volume := volume }
  images : ∀ (file : TableFile) number bytes, database.numbering file.path = file.id →
    database.catalog.Names file → file.image? database.volume number = some bytes →
      file.image? next.volume number = some bytes ∨
        file.pageId number = page ∧ ∃ (frame : Nat) (content : Page) (written : Nat),
          database.pool.frames[frame]? = some content ∧ content.id = page ∧
            content.isDirty = true ∧ file.image? next.volume number = some (content.encode.take written ++
              bytes.drop (content.encode.take written).length)

section

variable {database next : Database} {page : PageId} {frame : Nat} {content : Page}

private theorem Strides.image?_of_written {stride : Stride} (strides : database.Strides stride next)
    (steady : database.Steady) (transfers : ∀ written, stride.WritesTo written → written = page)
    (grows : ∀ other, stride ≠ .move (.grow other) ∧ stride ≠ .fray other)
    (opens : ∀ path opening, stride ≠ .move (.reopen path opening)) {file : TableFile}
    {number : Nat} {bytes : List UInt8} (numbered : database.numbering file.path = file.id)
    (names : database.catalog.Names file) (other : file.pageId number ≠ page)
    (onDisk : file.image? database.volume number = some bytes) :
    file.image? next.volume number = some bytes := by
  refine strides.image? steady ⟨numbered, fun _ => names, ?_, ?_⟩ ?_ onDisk
  · rintro grown (rfl | rfl) _
    · exact absurd rfl (grows grown).1
    · exact absurd rfl (grows grown).2
  · rintro path opening rfl _
    exact absurd rfl (opens path opening)
  · intro writes
    exact other (transfers _ writes)

theorem WritesFrame.writesOne (writes : database.WritesFrame page frame content next)
    (steady : database.Steady) (held : database.pool.frames[frame]? = some content)
    (own : content.id = page) : database.WritesOne page next := by
  -- Both ways of writing a page put its bytes to the disk and clean the frame.
  have put {file : TableFile} {stride : Stride} (dirty : content.isDirty = true)
      (registered : database.catalog.file page.table = .ok file)
      (length : content.encode.length = file.pageSize)
      (strides : database.Strides stride ((database.putImage file page.number
        content.encode).setFrame frame (content.mark none)))
      (only : stride = .move (.save page) ∨ stride = .copy page frame) :
      database.WritesOne page ((database.putImage file page.number content.encode).setFrame frame
        (content.mark none)) := by
    refine ⟨⟨_, _, rfl⟩, ?_, ?_⟩
    · intro other old heldOther
      simp only [setFrame, Pool.setFrame, Std.ExtTreeMap.getElem?_insert,
        Std.LawfulEqCmp.compare_eq_iff_eq]
      by_cases same : frame = other
      · subst same
        cases held.symm.trans heldOther
        exact .inr ⟨own, if_pos rfl⟩
      · exact .inl ((if_neg same).trans heldOther)
    · intro known number bytes numbered names onDisk
      by_cases same : known.pageId number = page
      · subst same
        cases names file registered
        exact .inr ⟨rfl, frame, content, held, own, dirty, Std.ExtTreeMap.getElem?_insert_self,
          TableFile.image?_put_self length database.volume number⟩
      · refine .inl (strides.image?_of_written steady ?_ ?_ ?_ numbered names same onDisk)
        · rcases only with rfl | rfl
          · exact fun _ writes => writes.symm
          · exact fun _ writes => writes.symm
        · rcases only with rfl | rfl
          all_goals exact fun _ => ⟨by rintro ⟨⟩, by rintro ⟨⟩⟩
        · rcases only with rfl | rfl
          all_goals rintro _ _ ⟨⟩
  cases writes with
  | clean _ =>
      exact ⟨⟨database.pool.frames, database.volume, rfl⟩, fun _ _ held => .inl held,
        fun _ _ _ _ _ onDisk => .inl onDisk⟩
  | save found moves =>
      cases moves with
      | save foundAgain dirty registered length =>
          cases found.symm.trans foundAgain
          exact put dirty registered length (.move (.save foundAgain dirty registered length))
            (.inl rfl)
  | copy _ strides =>
      cases strides with
      | copy heldAgain ownAgain stale dirty registered length =>
          cases held.symm.trans heldAgain
          exact put dirty registered length
            (.copy heldAgain ownAgain stale dirty registered length) (.inr rfl)

theorem Strides.tearsOne {written : Nat} (strides : database.Strides (.tear page frame written) next)
    (steady : database.Steady) : database.TearsOne page next := by
  cases strides with
  | @tear _ _ content file _ held own dirty registered length =>
      refine ⟨⟨_, rfl⟩, ?_⟩
      intro known number bytes numbered names onDisk
      by_cases same : known.pageId number = page
      · subst same
        cases names file registered
        have number : content.id.number = number := congrArg PageId.number own
        subst number
        exact .inr ⟨rfl, frame, content, written, held, own, dirty,
          TableFile.image?_writeInPart length written onDisk⟩
      · exact .inl ((Strides.tear written held own dirty registered length).image?_of_written steady
          (fun _ writes => writes.symm) (fun _ => ⟨nofun, nofun⟩) nofun numbered names same onDisk)

end

end Database

namespace Service

/-! ### Calls that fail -/

inductive Fails (service : Service) (ticket : Nat) : ServiceAction → Prop where
  | answers {fault : Fault} (answers : (service.step ticket).2 = some (.error fault)) :
      Fails service ticket (.step ticket)
  | refused {written : Nat} {next : Service}
      (refuses : service.stepRefused? ticket written = some next) :
      Fails service ticket (.stepRefused ticket written)

/-- One of the transaction's pages was written, or nothing was done. The operations under way stay
as they are. -/
structure WritesOwn (service : Service) (transaction : TransactionId) (next : Service) : Prop where
  tasks : next.engine.tasks = service.engine.tasks
  database : next.database = service.database ∨
    ∃ page ∈ service.database.pool.writtenBy transaction,
      service.database.WritesOne page next.database

/-- One of the transaction's pages was written in part, or nothing was done. The operations under way
stay as they are. -/
structure TearsOwn (service : Service) (transaction : TransactionId) (next : Service) : Prop where
  tasks : next.engine.tasks = service.engine.tasks
  database : next.database = service.database ∨
    ∃ page ∈ service.database.pool.writtenBy transaction,
      service.database.TearsOne page next.database

/-- The chore under the ticket has not come to drop the transaction's pages. -/
def Flushes (service : Service) (ticket : Nat) (transaction : TransactionId) : Prop :=
  ∃ (stage : Stage) (pages : List PageId), service.chores[ticket]? = some stage ∧
    stage.drops? = some (transaction, pages)

section

variable {service : Service} {action : ServiceAction} {ticket : Nat} {transaction : TransactionId}

private theorem flushes_of_serve (flushes : (service.serve action).Flushes ticket transaction)
    (uncalled : ∀ chore, action ≠ .call ticket chore) : service.Flushes ticket transaction := by
  obtain ⟨stage, pages, under, drops⟩ := flushes
  cases brings_serve under with
  | stays before _ => exact ⟨stage, pages, before, drops⟩
  | begins chore calls _ => exact absurd calls (uncalled chore)
  | advances before _ was goesOn => exact ⟨before, pages, was, drops?_advance goesOn drops⟩

private theorem flushes_of_serveEach {actions : List ServiceAction}
    (flushes : (service.serveEach actions).Flushes ticket transaction)
    (uncalled : ∀ chore, .call ticket chore ∉ actions) : service.Flushes ticket transaction := by
  induction actions generalizing service with
  | nil => exact flushes
  | cons action rest ih =>
      have later : (service.serve action).Flushes ticket transaction :=
        ih flushes fun chore member => uncalled chore (List.mem_cons_of_mem action member)
      apply flushes_of_serve later
      rintro chore rfl
      exact uncalled chore List.mem_cons_self

private theorem tasks_step {stage : Stage} (under : service.chores[ticket]? = some stage) :
    (service.step ticket).1.engine.tasks = service.engine.tasks := by
  rw [step_of_stage under, engine_note]
  rfl

private theorem database_step {stage : Stage} (under : service.chores[ticket]? = some stage) :
    (service.step ticket).1.database = (stage.advance service.database).1 := by
  rw [step_of_stage under, Service.database, engine_note]
  rfl

/-- The chore under a ticket goes on ending the transaction that it was called to end. -/
private theorem ends_of_called {actions : List ServiceAction}
    (uncalled : ∀ chore, .call ticket chore ∉ actions)
    (ends : ∀ stage, service.chores[ticket]? = some stage → stage.ends? = some transaction) :
    ∀ stage, (service.serveEach actions).chores[ticket]? = some stage →
      stage.ends? = some transaction := by
  have others : service.Along (fun _ action => ∀ chore, action ≠ .call ticket chore) actions := by
    refine along_of_forall ?_
    rintro action member chore rfl
    exact uncalled chore member
  refine others.keeps (fun service => ∀ stage, service.chores[ticket]? = some stage →
    stage.ends? = some transaction) ?_ ends
  · intro service action ends uncalled stage under
    cases brings_serve under with
    | stays before _ => exact ends stage before
    | begins chore calls _ => exact absurd calls (uncalled chore)
    | advances before _ was goesOn => exact (ends?_advance goesOn).trans (ends before was)

/-- Up to the step in which a chore that ends a transaction comes to drop its pages, it writes one of
them in a step, or does nothing. -/
private theorem Flushes.writesOwn (flushes : service.Flushes ticket transaction)
    (flushesOn : (service.serve (.step ticket)).Flushes ticket transaction)
    (grounded : service.Grounded) (attended : service.Attended) :
    service.WritesOwn transaction (service.serve (.step ticket)) := by
  obtain ⟨stage, pages, under, drops⟩ := flushes
  refine ⟨tasks_step under, ?_⟩
  change (service.step ticket).1.database = service.database ∨
    ∃ page ∈ service.database.pool.writtenBy transaction,
      service.database.WritesOne page (service.step ticket).1.database
  rw [database_step under]
  have advances := grounded.advances under
  generalize result : stage.advance service.database = came at advances
  cases advances with
  | concludes purpose =>
      obtain ⟨stageNext, _, underNext, dropsNext⟩ := flushesOn
      change (service.step ticket).1.chores[ticket]? = some stageNext at underNext
      rw [step_of_stage under, chores_note, if_pos rfl, result] at underNext
      cases purpose with
      | complete _ _ =>
          cases underNext
          cases dropsNext
      | _ => cases underNext
  | @writes page frame content next held own writes rest purpose =>
      have noted := (attended.noted ticket _ transaction pages under drops page).mp
        (attended.covers ticket _ transaction pages under drops page (.inl rfl))
      exact .inr ⟨page, noted, writes.writesOne grounded.engine.steady held own⟩
  | forgets _ => cases drops
  | releases _ => cases drops
  | _ => exact .inl rfl

private theorem Fails.cases (fails : service.Fails ticket action) :
    ∃ page frame rest purpose, service.chores[ticket]? = some (.writing page frame rest purpose) ∧
      (service.serve action).chores[ticket]? = none ∧
      ((service.serve action).engine = service.engine ∨
        ∃ written reached, service.database.writeFrameInPart? page frame written = some reached ∧
          (service.serve action).engine = service.engine.setDatabase reached) := by
  cases fails with
  | @answers fault answers =>
      cases under : service.chores[ticket]? with
      | none =>
          unfold step at answers
          rw [under] at answers
          cases answers
      | some stage =>
          change ∃ page frame rest purpose, some stage = some (.writing page frame rest purpose) ∧
            (service.step ticket).1.chores[ticket]? = none ∧
            ((service.step ticket).1.engine = service.engine ∨ _)
          rw [step_of_stage under] at answers ⊢
          rw [chores_note, engine_note, if_pos rfl]
          have finishes : (stage.advance service.database).2 = .finished (.error fault) := by
            cases headway : (stage.advance service.database).2 with
            | onwards rest =>
                rw [headway] at answers
                cases answers
            | finished result =>
                rw [headway] at answers
                cases answers
                rfl
          cases stage with
          | writing page frame rest purpose =>
              refine ⟨page, frame, rest, purpose, rfl, ?_, .inl ?_⟩
              · rw [finishes]
              · unfold Stage.advance at finishes ⊢
                dsimp only at finishes ⊢
                split at finishes
                · cases finishes
                · rfl
          | visiting pages purpose =>
              cases pages with
              | nil => cases purpose <;> cases finishes
              | cons page rest =>
                  unfold Stage.advance at finishes
                  dsimp only at finishes
                  split at finishes <;> cases finishes
          | _ => cases finishes
  | @refused written next refuses =>
      obtain ⟨page, frame, rest, purpose, reached, under, tears, same⟩ :=
        stepRefused?_eq_some refuses
      have comes : service.serve (.stepRefused ticket written) = next := by
        unfold Service.serve
        dsimp only
        rw [refuses]
        rfl
      rw [comes, same (.ok ()), chores_note, engine_note, if_pos rfl]
      exact ⟨page, frame, rest, purpose, under, rfl, .inr ⟨written, reached, tears, rfl⟩⟩

private theorem Fails.flushes (fails : service.Fails ticket action)
    (ends : ∀ stage, service.chores[ticket]? = some stage → stage.ends? = some transaction) :
    service.Flushes ticket transaction := by
  obtain ⟨page, frame, rest, purpose, writing, _, _⟩ := fails.cases
  have own := ends _ writing
  cases purpose with
  | complete ending pages =>
      cases own
      exact ⟨_, pages, writing, rfl⟩
  | _ => cases own

private theorem Fails.idle (fails : service.Fails ticket action) (page : PageId) :
    service.Proper action ∧ service.Orderly action ∧ ¬action.Yields page ∧
      ¬service.Frees transaction action ∧ ¬service.Touches page action ∧
        ¬service.Drops page action := by
  obtain ⟨_, _, _, _, under, _, _⟩ := fails.cases
  cases fails with
  | answers _ =>
      refine ⟨service.proper_step ticket, by rintro _ ⟨⟩, ?_, ?_, id, ?_⟩
      · rintro ⟨plain, same, _⟩
        cases same
      · intro frees
        cases under.symm.trans frees
      · rintro ⟨purpose, visiting, _⟩
        cases under.symm.trans visiting
  | refused _ =>
      refine ⟨service.proper_stepRefused ticket _, by rintro _ ⟨⟩, ?_, id, id, id⟩
      rintro ⟨plain, same, _⟩
      cases same

/-- A call that fails ends without anything but a page of the transaction that was written in
part. -/
private theorem Fails.tearsOwn (fails : service.Fails ticket action)
    (flushes : service.Flushes ticket transaction) (grounded : service.Grounded)
    (attended : service.Attended) : service.TearsOwn transaction (service.serve action) := by
  obtain ⟨page, frame, rest, purpose, under, _, same | ⟨written, reached, tears, same⟩⟩ :=
    fails.cases
  · refine ⟨congrArg Engine.tasks same, .inl (congrArg Engine.database same)⟩
  · obtain ⟨stage, pages, underAgain, drops⟩ := flushes
    cases under.symm.trans underAgain
    have noted := (attended.noted ticket _ transaction pages under drops page).mp
      (attended.covers ticket _ transaction pages under drops page (.inl rfl))
    obtain ⟨content, held, own⟩ := grounded.framed ticket page frame rest purpose under
    refine ⟨?_, .inr ⟨page, noted, ?_⟩⟩
    · rw [same]
      rfl
    · rw [show (service.serve action).database = reached from congrArg Engine.database same]
      exact (Database.tears_of_some held own tears).tearsOne grounded.engine.steady

private theorem Fails.awaiting (fails : service.Fails ticket action)
    (flushes : service.Flushes ticket transaction) (grounded : service.Grounded)
    (attended : service.Attended) {file : TableFile} {number : Nat} {bytes : List UInt8}
    (hosts : service.engine.Hosts file)
    (holds : service.database.Holds transaction (file.pageId number))
    (noted : file.pageId number ∈ service.database.pool.writtenBy transaction)
    (recent : ¬service.Overwrites (file.pageId number) action)
    (filled : (service.serve action).Filled)
    (due : service.database.due? file number = some bytes) :
    (service.serve action).Awaiting transaction file number bytes := by
  obtain ⟨proper, orderly, keeps, goesOn, untouched, undropped⟩ :=
    @Fails.idle service action ticket transaction fails (file.pageId number)
  obtain ⟨stage, pages, under, drops⟩ := flushes
  obtain ⟨_, _, _, _, _, gone, _⟩ := fails.cases
  have steady := grounded.engine.steady
  have catalog : (service.serve action).database.catalog = service.database.catalog := by
    obtain ⟨tasks, same | ⟨page, _, torn⟩⟩ := fails.tearsOwn ⟨stage, pages, under, drops⟩ grounded
      attended
    · rw [same]
    · obtain ⟨volume, same⟩ := torn.kept
      rw [same]
  have upholds : Upholds file service action := by
    refine ⟨?_, ?_, ?_⟩
    · rw [catalog]
      exact hosts.names
    · cases fails <;> exact nofun
    · cases fails <;> exact nofun
  have attendedNext := attended.serve grounded proper orderly
  have ended : ¬(service.serve action).Ending transaction := by
    rintro ⟨other, later, underLater, ends⟩
    rcases (brings_serve underLater).ends ends with ⟨before, was, same⟩ | ⟨chore, calls, _⟩
    · cases attended.single ticket other stage before transaction under was (ends?_of_drops? drops)
        same
      cases gone.symm.trans underLater
    · cases fails <;> cases calls
  have notedNext := (grounded.noted proper noted).resolve_right fun ⟨other, releasing⟩ =>
    ended ⟨other, _, releasing, rfl⟩
  exact awaiting_of_filled (grounded.serve proper).2 attendedNext
    (grounded.hosts proper upholds hosts)
    (grounded.holds attended proper (ServiceAction.not_releases keeps) goesOn holds) notedNext ended
    filled ((grounded.unaltered_of_untouched proper untouched).due? proper steady hosts upholds
      (fun drops => absurd drops undropped) recent due)

/-- A commit at once, on whatever catalog the file is one of, writes what the page is going to
have. -/
private theorem Grounded.image?_of_commit (grounded : service.Grounded) {file : TableFile}
    {number : Nat} {bytes : List UInt8} (hosts : service.engine.Hosts file)
    (noted : file.pageId number ∈ service.database.pool.writtenBy transaction)
    (due : service.database.due? file number = some bytes) {catalog : Catalog}
    (sound : catalog.Sound service.database.numbering) (names : catalog.Names file)
    {done : Database}
    (succeeds : ({ service.database with catalog := catalog } : Database).commit transaction =
      (done, .ok ())) : file.image? done.volume number = some bytes := by
  have steady := grounded.engine.steady
  have hostsOther :
      (service.engine.setDatabase { service.database with catalog := catalog }).Hosts file :=
    ⟨hosts.numbered, names, hosts.tasks⟩
  have written := hostsOther.image?_of_commit
    ⟨sound, steady.exclusive, steady.sound, steady.frames⟩ noted (congrArg Prod.snd succeeds) due
  have comes : ((service.engine.setDatabase { service.database with
      catalog := catalog }).database.commit transaction).1 = done := congrArg Prod.fst succeeds
  rw [comes] at written
  exact written

/-! ### Locks that are left over -/

/-- The transaction does not give back its locks while a request of its own sleeps for the page. -/
def EndsAwake (transaction : TransactionId) (page : PageId) (service : Service)
    (action : ServiceAction) : Prop :=
  service.Frees transaction action → ∀ entry ∈ service.database.pool.locks.sleepers.toList,
    entry.2.request.transaction = transaction → entry.2.request.page ≠ page

instance (transaction : TransactionId) (page : PageId) (service : Service)
    (action : ServiceAction) : Decidable (EndsAwake transaction page service action) :=
  inferInstanceAs (Decidable (_ → _))

private theorem Grounded.traceable (grounded : service.Grounded) (proper : service.Proper action)
    {page : PageId} (awake : EndsAwake transaction page service action)
    (traceable : service.database.pool.locks.Traceable transaction page) :
    (service.serve action).database.pool.locks.Traceable transaction page := by
  refine grounded.serve_keeps proper
    (fun current => current.pool.locks.Traceable transaction page) ?_ traceable
  intro current next stride _ _ traceable makes strides
  have locks := strides.locks
  cases strides with
  | move moves =>
      cases moves with
      | lock locking =>
          refine traceable.perform ?_
          rintro rfl request blocked own
          obtain ⟨frees, rfl⟩ := makes.frees proper
          obtain ⟨ticket, sleeper, found, rfl⟩ := blocked
          exact awake frees (ticket, sleeper)
            (Std.ExtTreeMap.mem_toList_iff_getElem?_eq_some.mpr found) own
      | _ => exact traceable
  | _ => exact traceable

private theorem Grounded.traceable_each (grounded : service.Grounded)
    {actions : List ServiceAction} (proper : service.Along Proper actions) {page : PageId}
    (awake : service.Along (EndsAwake transaction page) actions)
    (traceable : service.database.pool.locks.Traceable transaction page) :
    (service.serveEach actions).database.pool.locks.Traceable transaction page := by
  have both := (proper.and awake).keeps (fun service =>
    service.Grounded ∧ service.database.pool.locks.Traceable transaction page) ?_
    ⟨grounded, traceable⟩
  · exact both.2
  · intro service action both allowed
    obtain ⟨grounded, traceable⟩ := both
    exact ⟨(grounded.serve allowed.1).2, grounded.traceable allowed.1 allowed.2 traceable⟩

private theorem traceable_new {start : Database} (setUp : start.SetUp)
    (transaction : TransactionId) (page : PageId) :
    (new start).database.pool.locks.Traceable transaction page := by
  obtain ⟨capacity, preference, pool⟩ := setUp.pool
  rw [show (new start).database.pool = Pool.new capacity preference from pool]
  exact LockTable.traceable_empty transaction page

end

/-- In each of its steps a commit writes one of the transaction's pages at most, from a frame that
is without changes then. If it fails in the end, it may have written one more page in part; it
releases no lock, drops no page and changes nothing else. When the transaction commits again later
on, every page that it meant to write, and that was never given back, is on the disk as it was going
to be when the commit failed, as if the commit had succeeded at once. This holds whatever is asked
meanwhile that is not about the page, unless the pool was about to be emptied when the commit
failed or an older copy of the page is written over it. The transaction is then without every lock
that it did not sleep for when it ended before. -/
theorem failed_commit_is_retried {start : Database} (setUp : start.SetUp)
    {history during : List ServiceAction} {begun failing : Service} {transaction : TransactionId}
    {calling : Nat} {failure : ServiceAction}
    (inTurn : (new start).Along InTurn (history ++ .call calling (.commit transaction) :: during))
    (begins : ((new start).serveEach history).serve (.call calling (.commit transaction)) = begun)
    (uncalled : ∀ chore, .call calling chore ∉ during)
    (reaches : begun.serveEach during = failing)
    (fails : failing.Fails calling failure) :
    (∀ first second, during = first ++ .step calling :: second →
      (begun.serveEach first).WritesOwn transaction (begun.serveEach (first ++ [.step calling]))) ∧
    failing.TearsOwn transaction (failing.serve failure) ∧
    ∀ continuation last ticket completing,
      (failing.serve failure).Along InTurn continuation →
      (failing.serve failure).serveEach continuation = last →
      last.chores[ticket]? = some completing → completing.ends? = some transaction →
      (last.step ticket).2 = some (.ok ()) →
      (∀ (file : TableFile) number bytes, failing.engine.Hosts file →
        file.pageId number ∈ failing.database.pool.writtenBy transaction →
        failing.database.due? file number = some bytes →
        (∀ action ∈ history ++ during, ¬action.Releases (file.pageId number)) →
        ¬failing.Overwrites (file.pageId number) failure → (failing.serve failure).Filled →
        (failing.serve failure).Along (Awaits transaction file number) continuation →
        file.image? (last.step ticket).1.database.volume number = some bytes ∧
          ∀ catalog, catalog.Sound failing.database.numbering → catalog.Names file →
            ∀ done, ({ failing.database with catalog := catalog } : Database).commit transaction =
              (done, .ok ()) → file.image? done.volume number = some bytes) ∧
      ∀ page,
        (new start).Along (EndsAwake transaction page)
          ((history ++ .call calling (.commit transaction) :: during) ++ failure :: continuation) →
        (last.step ticket).1.database.pool.locks.lockMode? transaction page = none := by
  have whole : (new start).serveEach (history ++ .call calling (.commit transaction) :: during) =
      failing := by
    rw [serveEach_append, ← reaches, ← begins]
    rfl
  obtain ⟨inTurnHistory, inTurnCall, inTurnDuring⟩ := along_append.mp inTurn
  obtain ⟨groundedHistory, attendedHistory⟩ :=
    inTurn_serveEach inTurnHistory (grounded_new setUp) (attended_new start)
  have groundedBegun := (groundedHistory.serve inTurnCall.proper).2
  have attendedBegun := attendedHistory.serve groundedHistory inTurnCall.proper inTurnCall.orderly
  rw [begins] at inTurnDuring groundedBegun attendedBegun
  obtain ⟨grounded, attended⟩ := inTurn_serveEach inTurnDuring groundedBegun attendedBegun
  rw [reaches] at grounded attended
  -- The call that fails has not come to drop the pages.
  have calls (stage : Stage) (under : begun.chores[calling]? = some stage) :
      stage.ends? = some transaction := by
    rw [← begins] at under
    change (((new start).serveEach history).chores.insert calling _)[calling]? = _ at under
    rw [Std.ExtTreeMap.getElem?_insert_self] at under
    cases under
    rfl
  have ends := ends_of_called uncalled calls
  rw [reaches] at ends
  have flushes := fails.flushes ends
  refine ⟨?_, fails.tearsOwn flushes grounded attended, ?_⟩
  · rintro first second rfl
    rw [along_append] at inTurnDuring
    obtain ⟨groundedFirst, attendedFirst⟩ :=
      inTurn_serveEach inTurnDuring.1 groundedBegun attendedBegun
    have comes : ((begun.serveEach first).serve (.step calling)).serveEach second = failing := by
      rw [← reaches, serveEach_append]
      rfl
    rw [← comes] at flushes
    have flushesOn := flushes_of_serveEach flushes fun chore member =>
      uncalled chore (List.mem_append_right first (List.mem_cons_of_mem _ member))
    rw [serveEach_append]
    exact (flushes_of_serve flushesOn nofun).writesOwn flushesOn groundedFirst attendedFirst
  · intro continuation last ticket completing inTurnLater arrives underLast completes answers
    obtain rfl := releasing_of_answer underLast completes answers
    rw [database_releasing underLast]
    constructor
    · intro file number bytes hosts noted due unreleased recent filled awaits
      have reserved := (grounded_new setUp).reserved_each (attended_new start) inTurn (by
        intro action member
        rcases List.mem_append.mp member with before | later
        · exact unreleased action (List.mem_append_left during before)
        · rcases List.mem_cons.mp later with rfl | after
          · rintro ⟨plain, same, _⟩
            cases same
          · exact unreleased action (List.mem_append_right history after))
        (reserved_new setUp (file.pageId number))
      rw [whole] at reserved
      have awaiting := (fails.awaiting flushes grounded attended hosts
        ⟨reserved, reserved transaction noted⟩ noted recent filled due).serveEach awaits
      rw [arrives] at awaiting
      exact ⟨awaiting.image? underLast, fun catalog sound names done succeeds =>
        grounded.image?_of_commit hosts noted due sound names succeeds⟩
    · intro page awake
      obtain ⟨properFailure, _⟩ := @Fails.idle failing failure calling transaction fails page
      have proper : (new start).Along Proper
          ((history ++ .call calling (.commit transaction) :: during) ++
            failure :: continuation) := by
        refine along_append.mpr ⟨inTurn.mono fun _ _ inTurn => inTurn.proper, ?_⟩
        rw [whole]
        exact ⟨properFailure, inTurnLater.mono fun _ _ inTurn => inTurn.proper⟩
      have traceable := (grounded_new setUp).traceable_each proper awake
        (traceable_new setUp transaction page)
      rw [serveEach_append, whole] at traceable
      have comes : failing.serveEach (failure :: continuation) = last := arrives
      rw [comes] at traceable
      exact traceable.lockMode?_releaseAll

/-- A transaction has changed a page in each of two tables, one of which is not registered when it
commits. Somebody else asks for the page that was written and has to wait. After the table is
registered again, the second commit is cut short on the disk, and the third one succeeds. -/
theorem failed_commit_is_retried_after_torn_page :
    let start := Samples.tables 4 0 0
    let turns (ticket : Nat) (operation : Operation) : List ServiceAction :=
      [.serve (.perform (.begin ticket operation)), .serve (.perform (.turn ticket))]
    let history := turns 0 (.insert ⟨1⟩ ⟨0⟩ (Samples.row 7)) ++
      (turns 1 (.insert ⟨1⟩ ⟨1⟩ (Samples.row 8)) ++
        [.serve .clearCatalog, .serve (.register Samples.left "left")])
    let during := [.step 0, .step 0] ++
      (turns 2 (.fetch ⟨2⟩ (Samples.left.pageId 0) .read) ++ [.step 0])
    let continuation : List ServiceAction :=
      [.serve (.register Samples.right "right"), .call 1 (.commit ⟨1⟩), .step 1, .step 1, .step 1,
        .stepRefused 1 6, .call 1 (.commit ⟨1⟩), .step 1, .step 1, .step 1, .step 1, .step 1,
        .step 1]
    let begun := ((new start).serveEach history).serve (.call 0 (.commit ⟨1⟩))
    let failing := begun.serveEach during
    let failed := failing.serve (.step 0)
    let last := failed.serveEach continuation
    start.SetUp ∧ (new start).Along InTurn (history ++ .call 0 (.commit ⟨1⟩) :: during) ∧
      (failing.step 0).2 = some (.error (.tableNotFound ⟨1⟩)) ∧
      failed.Along InTurn continuation ∧ last.chores[1]? = some (.releasing ⟨1⟩) ∧
      (last.step 1).2 = some (.ok ()) ∧ failing.engine.Hosts Samples.right ∧
      Samples.right.pageId 0 ∈ failing.database.pool.writtenBy ⟨1⟩ ∧
      (∀ action ∈ history ++ during, ¬action.Releases (Samples.right.pageId 0)) ∧
      ¬failing.Overwrites (Samples.right.pageId 0) (.step 0) ∧ failed.Filled ∧
      failed.Along (Awaits ⟨1⟩ Samples.right 0) continuation ∧
      (new start).Along (EndsAwake ⟨1⟩ (Samples.right.pageId 0))
        ((history ++ .call 0 (.commit ⟨1⟩) :: during) ++ .step 0 :: continuation) ∧
      Samples.right.image? failing.database.volume 0 = some (Page.emptyImage 16) ∧
      (∃ bytes, bytes ≠ Page.emptyImage 16 ∧ failing.database.due? Samples.right 0 = some bytes ∧
        Samples.right.image? (last.step 1).1.database.volume 0 = some bytes) ∧
      (last.step 1).1.database.pool.locks.lockMode? ⟨1⟩ (Samples.right.pageId 0) = none := by
  intro start turns history during continuation begun failing failed last
  have setUp : start.SetUp := Samples.setUp_tables (by decide) 0 0
  have inTurn : (new start).Along InTurn (history ++ .call 0 (.commit ⟨1⟩) :: during) := by
    decide +kernel
  have uncalled : ∀ chore, .call 0 chore ∉ during := by
    intro chore member
    simp [during, turns] at member
  have fails : (failing.step 0).2 = some (.error (.tableNotFound ⟨1⟩)) := by decide +kernel
  have inTurnLater : failed.Along InTurn continuation := by decide +kernel
  have under : last.chores[1]? = some (.releasing ⟨1⟩) := by decide +kernel
  have answers : (last.step 1).2 = some (.ok ()) := by decide +kernel
  have hosts : failing.engine.Hosts Samples.right := by decide +kernel
  have noted : Samples.right.pageId 0 ∈ failing.database.pool.writtenBy ⟨1⟩ := by decide +kernel
  have unreleased : ∀ action ∈ history ++ during, ¬action.Releases (Samples.right.pageId 0) := by
    decide +kernel
  have recent : ¬failing.Overwrites (Samples.right.pageId 0) (.step 0) := by decide +kernel
  have filled : failed.Filled := by decide +kernel
  have awaits : failed.Along (Awaits ⟨1⟩ Samples.right 0) continuation := by decide +kernel
  have awake : (new start).Along (EndsAwake ⟨1⟩ (Samples.right.pageId 0))
      ((history ++ .call 0 (.commit ⟨1⟩) :: during) ++ .step 0 :: continuation) := by
    decide +kernel
  have due : failing.database.due? Samples.right 0 =
      some ([1, 0, 0, 0, 8] ++ List.replicate 11 0) := by decide +kernel
  have before : Samples.right.image? failing.database.volume 0 = some (Page.emptyImage 16) := by
    decide +kernel
  have changed : [1, 0, 0, 0, 8] ++ List.replicate 11 0 ≠ Page.emptyImage 16 := by decide
  obtain ⟨_, _, retried⟩ :=
    failed_commit_is_retried setUp inTurn rfl uncalled rfl (.answers fails)
  obtain ⟨written, free⟩ := retried continuation last 1 _ inTurnLater rfl under rfl answers
  exact ⟨setUp, inTurn, fails, inTurnLater, under, answers, hosts, noted, unreleased, recent, filled,
    awaits, awake, before, ⟨_, changed, due, (written Samples.right 0 _ hosts noted due unreleased
      recent filled awaits).1⟩, free _ awake⟩

/-- A transaction ends while a request of its own sleeps, and the request is granted afterwards. The
transaction goes on, fails to commit, and commits when the table is registered again. It still has
the lock that was granted late. -/
theorem retried_commit_leaves_late_lock :
    let start := Samples.tables 4 1 0
    let page := Samples.left.pageId 0
    let turns (ticket : Nat) (operation : Operation) : List ServiceAction :=
      [.serve (.perform (.begin ticket operation)), .serve (.perform (.turn ticket))]
    let history := turns 0 (.fetch ⟨1⟩ page .write) ++ (turns 1 (.fetch ⟨2⟩ page .read) ++
      ([.call 0 (.commit ⟨2⟩), .step 0, .step 0, .step 0,
        .call 1 (.commit ⟨1⟩), .step 1, .step 1, .step 1, .step 1, .step 1,
        .serve (.perform (.turn 1))] ++
        (turns 2 (.insert ⟨2⟩ ⟨1⟩ (Samples.row 8)) ++ [.serve .clearCatalog])))
    let failing := (((new start).serveEach history).serve (.call 2 (.commit ⟨2⟩))).serveEach
      [.step 2]
    let continuation : List ServiceAction := [.serve (.register Samples.right "right"),
      .call 3 (.commit ⟨2⟩), .step 3, .step 3, .step 3, .step 3]
    let last := (failing.serve (.step 2)).serveEach continuation
    start.SetUp ∧ (new start).Along InTurn (history ++ [.call 2 (.commit ⟨2⟩), .step 2]) ∧
      (failing.step 2).2 = some (.error (.tableNotFound ⟨1⟩)) ∧
      (failing.serve (.step 2)).Along InTurn continuation ∧
      last.chores[3]? = some (.releasing ⟨2⟩) ∧ (last.step 3).2 = some (.ok ()) ∧
      (last.step 3).1.database.pool.locks.lockMode? ⟨2⟩ page = some .shared := by
  intro start page turns history failing continuation last
  have setUp : start.SetUp := Samples.setUp_tables (by decide) 1 0
  exact ⟨setUp, by decide +kernel, by decide +kernel, by decide +kernel, by decide +kernel,
    by decide +kernel, by decide +kernel⟩

end Service

end RowStore
