import RowStore.Proofs.Service.Pages

/-!
Chores that drop pages: emptying the pool and committing write a page before they drop it. So as long
as nobody changes the page, it is going to have the same bytes on the disk, from the moment at which
the transaction that means to write it goes on up to its end.
-/

set_option autoImplicit false

namespace RowStore

def Purpose.Clears (transaction? : Option TransactionId) : Purpose → Prop
  | .write => False
  | .clear => True
  | .complete ending _ => transaction? = some ending

/-- The page is without changes before the chore drops it: it is so now, or the chore is still to
come to it, or has found it in its frame. -/
def Stage.Saves (database : Database) (page : PageId) (transaction? : Option TransactionId) :
    Stage → Prop
  | .visiting pages purpose => purpose.Clears transaction? →
      database.pool.unsaved? page = none ∨ page ∈ pages
  | .writing written frame rest purpose => purpose.Clears transaction? →
      database.pool.unsaved? page = none ∨ page ∈ rest ∨
        written = page ∧ database.pool.resident[page]? = some frame
  | .forgetting ending => transaction? = some ending → database.pool.unsaved? page = none
  | .releasing ending => transaction? = some ending → database.pool.unsaved? page = none

def Stage.clears : Stage → Bool
  | .visiting _ purpose => purpose = .clear
  | .writing _ _ _ purpose => purpose = .clear
  | _ => false

theorem Stage.clears_advance {database : Database} {before stage : Stage}
    (goesOn : (before.advance database).2 = .onwards stage) : stage.clears = before.clears := by
  cases before with
  | visiting pages purpose =>
      cases pages with
      | nil =>
          obtain ⟨_, _, rfl, rfl⟩ := Service.ends?_conclude goesOn
          rfl
      | cons page rest =>
          unfold Stage.advance at goesOn
          dsimp only at goesOn
          split at goesOn <;> cases goesOn <;> rfl
  | writing page frame rest purpose =>
      unfold Stage.advance at goesOn
      dsimp only at goesOn
      split at goesOn <;> cases goesOn
      rfl
  | forgetting transaction =>
      cases goesOn
      rfl
  | releasing transaction => cases goesOn

theorem Stage.saves_of_idle {stage : Stage} {transaction : TransactionId}
    (still : stage.clears = false) (goesOn : stage.ends? ≠ some transaction)
    (database : Database) (page : PageId) : stage.Saves database page (some transaction) := by
  have idle {purpose : Purpose} (still : decide (purpose = .clear) = false)
      (goesOn : purpose.ends? ≠ some transaction) : ¬purpose.Clears (some transaction) := by
    cases purpose with
    | write => exact id
    | clear => cases still
    | complete ending pages => exact fun same => goesOn same.symm
  cases stage with
  | visiting pages purpose => exact fun clears => absurd clears (idle still goesOn)
  | writing written frame rest purpose => exact fun clears => absurd clears (idle still goesOn)
  | forgetting ending => exact fun same => absurd same.symm goesOn
  | releasing ending => exact fun same => absurd same.symm goesOn

def ServiceAction.Aborts (transaction : TransactionId) : ServiceAction → Prop
  | .call _ (.abort aborting) => aborting = transaction
  | _ => False

instance (transaction : TransactionId) (action : ServiceAction) :
    Decidable (action.Aborts transaction) := by
  unfold ServiceAction.Aborts
  split <;> infer_instance

namespace Service

section

variable {service : Service} {action : ServiceAction} {page : PageId}
  {transaction? : Option TransactionId}

theorem Admits.saves {ticket : Nat} {chore : Chore} (admits : service.Admits ticket chore)
    (unaborted : ∀ transaction, transaction? = some transaction → chore ≠ .abort transaction)
    (noted : ∀ transaction, transaction? = some transaction → chore = .commit transaction →
      page ∈ service.database.pool.writtenBy transaction) :
    (chore.stage service.database).Saves service.database page transaction? := by
  cases chore with
  | flushPage _ => exact False.elim
  | flushTransaction _ => exact False.elim
  | flushAll order =>
      intro _
      cases resident : service.database.pool.resident[page]? with
      | none => exact .inl (Pool.unsaved?_of_vacant resident)
      | some frame =>
          refine .inr (admits.2.mem_iff.mpr (Std.ExtTreeMap.mem_keys.mpr ?_))
          rw [Std.ExtTreeMap.mem_iff_isSome_getElem?, resident]
          rfl
  | commit transaction => exact fun ends => .inr (noted transaction ends rfl)
  | abort transaction => exact fun ends => absurd rfl (unaborted transaction ends)

theorem Unaltered.saves_of_same (unaltered : service.Unaltered action page)
    (steady : service.database.Steady) {stage : Stage}
    (saves : stage.Saves service.database page transaction?) :
    stage.Saves (service.serve action).database page transaction? := by
  cases stage with
  | visiting pages purpose =>
      exact fun clears => (saves clears).imp_left (unaltered.saved steady)
  | writing written frame rest purpose =>
      intro clears
      rcases saves clears with saved | later | ⟨same, resident⟩
      · exact .inl (unaltered.saved steady saved)
      · exact .inr (.inl later)
      · rcases unaltered.resident steady resident with saved | stays
        · exact .inl saved
        · exact .inr (.inr ⟨same, stays⟩)
  | forgetting ending => exact fun same => unaltered.saved steady (saves same)
  | releasing ending => exact fun same => unaltered.saved steady (saves same)

private theorem Unaltered.saves_advance (unaltered : service.Unaltered action page)
    (grounded : service.Grounded) {ticket : Nat} {before stage : Stage}
    (steps : action = .step ticket) (under : service.chores[ticket]? = some before)
    (goesOn : (before.advance service.database).2 = .onwards stage)
    (saves : before.Saves service.database page transaction?) :
    stage.Saves (service.serve action).database page transaction? := by
  have steady := grounded.engine.steady
  have comes : (service.serve action).database = (before.advance service.database).1 := by
    subst steps
    rw [serve, step_of_stage under, Service.database, engine_note]
    rfl
  have advances := grounded.advances under
  generalize before.advance service.database = result at goesOn comes advances
  cases advances with
  | concludes purpose =>
      obtain ⟨transaction, pages, rfl, rfl⟩ := ends?_conclude goesOn
      intro same
      exact unaltered.saved steady ((saves same).resolve_right List.not_mem_nil)
  | skips absent rest purpose =>
      cases goesOn
      refine unaltered.saves_of_same steady ?_
      intro clears
      rcases saves clears with saved | member
      · exact .inl saved
      · rcases List.mem_cons.mp member with rfl | later
        · exact .inl (Pool.unsaved?_of_vacant absent)
        · exact .inr later
  | finds found rest purpose =>
      cases goesOn
      refine unaltered.saves_of_same steady ?_
      intro clears
      rcases saves clears with saved | member
      · exact .inl saved
      · rcases List.mem_cons.mp member with rfl | later
        · exact .inr (.inr ⟨rfl, (Pool.residentFrame?_eq_some.mp found).1⟩)
        · exact .inr (.inl later)
  | writes held own writes rest purpose =>
      cases goesOn
      intro clears
      rcases saves clears with saved | later | ⟨rfl, resident⟩
      · exact .inl (unaltered.saved steady saved)
      · exact .inr later
      · rw [comes]
        exact .inl (writes.saved held resident)
  | forgets transaction =>
      cases goesOn
      exact fun same => unaltered.saved steady (saves same)
  | fails _ _ _ _ _ => cases goesOn
  | releases _ => cases goesOn

theorem Unaltered.saves (unaltered : service.Unaltered action page) (grounded : service.Grounded)
    {ticket : Nat} {stage : Stage} (brings : service.Brings action ticket stage)
    (before : ∀ stage, service.chores[ticket]? = some stage →
      stage.Saves service.database page transaction?)
    (begins : ∀ chore, action = .call ticket chore →
      (chore.stage service.database).Saves service.database page transaction?) :
    stage.Saves (service.serve action).database page transaction? := by
  cases brings with
  | stays under _ => exact unaltered.saves_of_same grounded.engine.steady (before stage under)
  | begins chore calls same =>
      rw [same]
      exact unaltered.saves_of_same grounded.engine.steady (begins chore calls)
  | advances old steps under goesOn =>
      exact unaltered.saves_advance grounded steps under goesOn (before old under)

end

/-! ### Transactions that go on up to their commit -/

/-- The action leaves the page to the transaction, which goes on or commits. Nobody rewrites the page
in the pool, nor an older copy of it on the disk, and its file stays the only one at its path. -/
structure Awaits (transaction : TransactionId) (file : TableFile) (number : Nat)
    (service : Service) (action : ServiceAction) : Prop where
  proper : service.Proper action
  orderly : service.Orderly action
  unaborted : ¬action.Aborts transaction
  goesOn : ¬service.Frees transaction action
  upholds : Upholds file service action
  keeps : ¬action.Yields (file.pageId number)
  unwritten : ¬service.Rewrites transaction (file.pageId number) action
  recent : ¬service.Overwrites (file.pageId number) action

instance (transaction : TransactionId) (file : TableFile) (number : Nat) (service : Service)
    (action : ServiceAction) : Decidable (Awaits transaction file number service action) :=
  decidable_of_iff (service.Proper action ∧ service.Orderly action ∧
      ¬action.Aborts transaction ∧ ¬service.Frees transaction action ∧
      Upholds file service action ∧ ¬action.Yields (file.pageId number) ∧
        ¬service.Rewrites transaction (file.pageId number) action ∧
          ¬service.Overwrites (file.pageId number) action)
    ⟨fun all => ⟨all.1, all.2.1, all.2.2.1, all.2.2.2.1, all.2.2.2.2.1, all.2.2.2.2.2.1,
      all.2.2.2.2.2.2.1, all.2.2.2.2.2.2.2⟩, fun awaits => ⟨awaits.proper, awaits.orderly,
        awaits.unaborted, awaits.goesOn, awaits.upholds, awaits.keeps, awaits.unwritten,
          awaits.recent⟩⟩

structure Awaiting (service : Service) (transaction : TransactionId) (file : TableFile)
    (number : Nat) (bytes : List UInt8) : Prop where
  grounded : service.Grounded
  attended : service.Attended
  hosts : service.engine.Hosts file
  holds : service.database.Holds transaction (file.pageId number)
  /-- It has not forgotten that it means to write the page, unless it is about to end. -/
  noted : file.pageId number ∈ service.database.pool.writtenBy transaction ∨
    ∃ ticket : Nat, service.chores[ticket]? = some (.releasing transaction)
  saves : ∀ (ticket : Nat) stage, service.chores[ticket]? = some stage →
    stage.Saves service.database (file.pageId number) (some transaction)
  due : service.database.due? file number = some bytes

/-- Nobody is about to empty the pool. -/
def Filled (service : Service) : Prop :=
  ∀ entry ∈ service.chores.toList, entry.2.clears = false

instance (service : Service) : Decidable service.Filled :=
  inferInstanceAs (Decidable (∀ entry ∈ service.chores.toList, entry.2.clears = false))

section

variable {service : Service} {action : ServiceAction} {transaction : TransactionId}
  {file : TableFile} {number : Nat} {bytes : List UInt8} {page : PageId}

/-- Whoever has a page and is not ending waits for its commit, if nobody is about to empty the
pool. -/
theorem awaiting_of_filled (grounded : service.Grounded) (attended : service.Attended)
    (hosts : service.engine.Hosts file)
    (holds : service.database.Holds transaction (file.pageId number))
    (noted : file.pageId number ∈ service.database.pool.writtenBy transaction)
    (goesOn : ¬service.Ending transaction) (filled : service.Filled)
    (due : service.database.due? file number = some bytes) :
    service.Awaiting transaction file number bytes := by
  refine ⟨grounded, attended, hosts, holds, .inl noted, ?_, due⟩
  intro ticket stage under
  have still := filled (ticket, stage) (Std.ExtTreeMap.mem_toList_iff_getElem?_eq_some.mpr under)
  refine Stage.saves_of_idle still ?_ service.database (file.pageId number)
  intro ends
  exact goesOn ⟨ticket, stage, under, ends⟩

theorem stays (proper : service.Proper action) {ticket : Nat} {stage : Stage}
    (under : service.chores[ticket]? = some stage) (other : action ≠ .step ticket)
    (idle : ∀ page frame rest purpose, stage ≠ .writing page frame rest purpose) :
    (service.serve action).chores[ticket]? = some stage := by
  unfold Service.serve
  cases action with
  | serve plain => exact under
  | beginRefused begun operation refusal cause => dsimp only; split <;> exact under
  | turnRefused turned refusal cause => dsimp only; split <;> exact under
  | appendRefused file written => exact under
  | call called chore =>
      have admits := proper.chore called chore rfl
      have unused : service.chores[called]? = none := by
        cases chore with
        | flushAll order => exact admits.1
        | _ => exact admits
      have apart : called ≠ ticket := by
        rintro rfl
        cases under.symm.trans unused
      change (service.chores.insert called (chore.stage service.database))[ticket]? = some stage
      rw [Std.ExtTreeMap.getElem?_insert, if_neg]
      · exact under
      · rw [Std.LawfulEqCmp.compare_eq_iff_eq]
        exact apart
  | step stepped =>
      change (service.step stepped).1.chores[ticket]? = some stage
      cases before : service.chores[stepped]? with
      | none =>
          unfold Service.step
          rw [before]
          exact under
      | some old =>
          rw [step_of_stage before, chores_note, if_neg]
          · exact under
          · rintro rfl
            exact other rfl
  | stepRefused stepped written =>
      dsimp only
      cases refuses : service.stepRefused? stepped written with
      | none => exact under
      | some next =>
          obtain ⟨page, frame, rest, purpose, reached, writing, _, same⟩ :=
            stepRefused?_eq_some refuses
          rw [Option.getD_some, same (.ok ()), chores_note, if_neg]
          · exact under
          · rintro rfl
            exact idle page frame rest purpose (Option.some.inj (under.symm.trans writing))

/-- A transaction means to write what it meant to write, up to the last but one step of its end. -/
theorem Grounded.noted (grounded : service.Grounded) (proper : service.Proper action)
    (noted : page ∈ service.database.pool.writtenBy transaction) :
    page ∈ (service.serve action).database.pool.writtenBy transaction ∨
      ∃ ticket : Nat, (service.serve action).chores[ticket]? = some (.releasing transaction) := by
  by_cases forgets : ∃ ticket, action = .step ticket ∧
      service.chores[ticket]? = some (.forgetting transaction)
  · obtain ⟨ticket, rfl, under⟩ := forgets
    refine .inr ⟨ticket, ?_⟩
    change (service.step ticket).1.chores[ticket]? = _
    rw [step_of_stage under, chores_note, if_pos rfl]
    rfl
  · refine .inl (grounded.serve_keeps proper
      (fun current => page ∈ current.pool.writtenBy transaction) ?_ noted)
    intro current next stride _ _ member makes strides
    refine strides.keeps_writtenBy ?_ member
    rintro rfl
    obtain ⟨ticket, steps, _, under⟩ := makes.forget_cases proper
    exact forgets ⟨ticket, steps, under⟩

private theorem Awaiting.undropped (awaiting : service.Awaiting transaction file number bytes)
    (keeps : ¬action.Yields (file.pageId number))
    (drops : service.Drops (file.pageId number) action) :
    service.database.pool.unsaved? (file.pageId number) = none := by
  cases action with
  | step ticket =>
      obtain ⟨purpose, under, discards⟩ := drops
      have clears : purpose.Clears (some transaction) := by
        cases purpose with
        | write => exact discards
        | clear => trivial
        | complete other pages =>
            have noted := (awaiting.attended.noted ticket _ other pages under rfl _).mp discards
            exact congrArg some
              (awaiting.holds.eq_of_mem awaiting.grounded.engine.steady noted).symm
      exact (awaiting.saves ticket _ under clears).resolve_right List.not_mem_nil
  | serve plain => exact absurd ⟨plain, rfl, .inr drops⟩ keeps
  | _ => exact drops.elim

theorem Awaiting.serve (awaiting : service.Awaiting transaction file number bytes)
    (awaits : Awaits transaction file number service action) :
    (service.serve action).Awaiting transaction file number bytes := by
  obtain ⟨proper, orderly, unaborted, goesOn, upholds, keeps, unwritten, recent⟩ := awaits
  have grounded := awaiting.grounded
  have attended := awaiting.attended
  have unaltered := grounded.unaltered_of_holds attended proper awaiting.holds keeps goesOn
    unwritten
  refine ⟨(grounded.serve proper).2, attended.serve grounded proper orderly,
    grounded.hosts proper upholds awaiting.hosts,
    grounded.holds attended proper (ServiceAction.not_releases keeps) goesOn awaiting.holds,
    ?_, ?_, ?_⟩
  · rcases awaiting.noted with noted | ⟨ticket, under⟩
    · exact grounded.noted proper noted
    · refine .inr ⟨ticket, stays proper under ?_ nofun⟩
      rintro rfl
      exact goesOn under
  · intro ticket stage under
    refine unaltered.saves grounded (brings_serve under) (awaiting.saves ticket) ?_
    rintro chore rfl
    refine (proper.chore ticket chore rfl).saves ?_ ?_
    · rintro _ ⟨rfl⟩ rfl
      exact unaborted rfl
    · rintro _ ⟨rfl⟩ rfl
      -- A transaction that is about to end is not called to commit.
      refine awaiting.noted.resolve_right ?_
      rintro ⟨other, under⟩
      exact orderly transaction rfl ⟨other, _, under, rfl⟩
  · exact unaltered.due? proper grounded.engine.steady awaiting.hosts upholds
      (awaiting.undropped keeps) recent awaiting.due

theorem Awaiting.serveEach (awaiting : service.Awaiting transaction file number bytes)
    {actions : List ServiceAction}
    (awaits : service.Along (Awaits transaction file number) actions) :
    (service.serveEach actions).Awaiting transaction file number bytes :=
  awaits.keeps (fun service => service.Awaiting transaction file number bytes)
    (fun _ _ awaiting awaits => awaiting.serve awaits) awaiting

theorem releasing_of_answer {ticket : Nat} {stage : Stage}
    (under : service.chores[ticket]? = some stage) (ends : stage.ends? = some transaction)
    (answers : (service.step ticket).2 = some (.ok ())) : stage = .releasing transaction := by
  have purposeEnds {purpose : Purpose} {result : Except Fault Unit}
      (ends : purpose.ends? = some transaction) :
      (Stage.conclude service.database purpose).2 ≠ .finished result := by
    cases purpose with
    | complete _ _ => exact nofun
    | _ => cases ends
  have finishes : (stage.advance service.database).2 = .finished (.ok ()) := by
    rw [step_of_stage under] at answers
    cases headway : (stage.advance service.database).2 with
    | onwards rest =>
        rw [headway] at answers
        cases answers
    | finished result =>
        rw [headway] at answers
        cases answers
        rfl
  cases stage with
  | visiting pages purpose =>
      cases pages with
      | nil => exact absurd finishes (purposeEnds ends)
      | cons page rest =>
          unfold Stage.advance at finishes
          dsimp only at finishes
          split at finishes <;> cases finishes
  | writing page frame rest purpose =>
      unfold Stage.advance at finishes
      dsimp only at finishes
      split at finishes <;> cases finishes
  | forgetting _ => cases finishes
  | releasing _ =>
      cases ends
      rfl

theorem database_releasing {ticket : Nat}
    (under : service.chores[ticket]? = some (.releasing transaction)) :
    (service.step ticket).1.database = service.database.releaseAll transaction := by
  rw [step_of_stage under, Service.database, engine_note]
  rfl

/-- When a commit is about to give back the locks, the page has the bytes on the disk that it was
going to have. -/
theorem Awaiting.image? (awaiting : service.Awaiting transaction file number bytes) {ticket : Nat}
    (under : service.chores[ticket]? = some (.releasing transaction)) :
    file.image? service.database.volume number = some bytes := by
  have due := awaiting.due
  unfold Database.due? at due
  rw [awaiting.saves ticket _ under rfl] at due
  exact due

end

end Service

end RowStore
