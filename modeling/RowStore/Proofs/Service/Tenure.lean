import RowStore.Proofs.Service.History

/-!
Tenure beside chores: while a transaction has a page to itself, nobody else changes the page, means
to write it or ends with it. This is so as long as the calls of each transaction come one after
another: while a transaction is ending, it takes no turns, and nobody ends it a second time.
-/

set_option autoImplicit false

namespace RowStore

/-- The transaction that a chore ends, and the pages that it has yet to drop. -/
def Purpose.drops? : Purpose → Option (TransactionId × List PageId)
  | .complete transaction pages => some (transaction, pages)
  | _ => none

def Stage.drops? : Stage → Option (TransactionId × List PageId)
  | .visiting _ purpose => purpose.drops?
  | .writing _ _ _ purpose => purpose.drops?
  | _ => none

/-- The page is to be written, if it is in the pool. -/
def Stage.Visits (page : PageId) : Stage → Prop
  | .visiting pages _ => page ∈ pages
  | .writing written _ rest _ => page = written ∨ page ∈ rest
  | _ => False

namespace Engine

section

variable {engine : Engine} {action : DatabaseAction} {current : Database}

theorem Ends.isChore {transaction : TransactionId} (ends : engine.Ends transaction action) :
    action.isChore = true := by
  cases action with
  | perform action =>
      cases action with
      | commit _ => rfl
      | abort _ => rfl
      | begin _ _ => exact ends.elim
      | turn _ => exact ends.elim
  | _ => exact ends.elim

theorem not_ends_of_plain (plain : action.isChore = false) (transaction : TransactionId) :
    ¬engine.Ends transaction action := by
  intro ends
  cases ends.isChore.symm.trans plain

theorem Clears.isChore (clears : engine.Clears action) : action.isChore = true := by
  cases action with
  | flushAll => rfl
  | _ => exact clears.elim

/-- Only a turn of an operation of its own makes a transaction mean to write a page. -/
theorem Makes.note {transaction : TransactionId} {page : PageId}
    (makes : engine.Makes action current (.note transaction page)) :
    ∃ ticket task, action = .perform (.turn ticket) ∧ engine.tasks[ticket]? = some task ∧
      task.request.transaction = transaction := by
  cases makes with
  | @turn ticket task _ _ _ found _ makes =>
      cases makes
      exact ⟨ticket, task, rfl, found, rfl⟩
  | ending _ ending => cases ending

theorem Writes.isChore {page : PageId} (writes : engine.Writes page action) :
    action.isChore = true := by
  cases writes <;> rfl

end

end Engine

namespace Service

/-! ### One call after another -/

def Ending (service : Service) (transaction : TransactionId) : Prop :=
  ∃ (ticket : Nat) (stage : Stage), service.chores[ticket]? = some stage ∧
    stage.ends? = some transaction

instance (service : Service) (transaction : TransactionId) :
    Decidable (service.Ending transaction) :=
  decidable_of_iff (∃ entry ∈ service.chores.toList, entry.2.ends? = some transaction) (by
    constructor
    · rintro ⟨⟨ticket, stage⟩, listed, ends⟩
      exact ⟨ticket, stage, Std.ExtTreeMap.mem_toList_iff_getElem?_eq_some.mp listed, ends⟩
    · rintro ⟨ticket, stage, under, ends⟩
      exact ⟨(ticket, stage), Std.ExtTreeMap.mem_toList_iff_getElem?_eq_some.mpr under, ends⟩)

def asks? (service : Service) : ServiceAction → Option TransactionId
  | .serve (.perform (.turn ticket)) =>
      service.engine.tasks[ticket]?.map (fun task => task.request.transaction)
  | .turnRefused ticket _ _ =>
      service.engine.tasks[ticket]?.map (fun task => task.request.transaction)
  | .call _ chore => chore.ends?
  | _ => none

/-- Nothing is done for a transaction that is ending. -/
def Orderly (service : Service) (action : ServiceAction) : Prop :=
  ∀ transaction ∈ service.asks? action, ¬service.Ending transaction

instance (service : Service) (action : ServiceAction) : Decidable (service.Orderly action) :=
  inferInstanceAs (Decidable (∀ transaction ∈ service.asks? action, ¬service.Ending transaction))

/-- The action may be asked for, and nothing is done for a transaction that is ending. -/
structure InTurn (service : Service) (action : ServiceAction) : Prop where
  proper : service.Proper action
  orderly : service.Orderly action

instance (service : Service) (action : ServiceAction) : Decidable (service.InTurn action) :=
  decidable_of_iff (service.Proper action ∧ service.Orderly action)
    ⟨fun both => ⟨both.1, both.2⟩, fun inTurn => ⟨inTurn.proper, inTurn.orderly⟩⟩

/-- The chores that end a transaction: there is one at most, it drops the pages that the transaction
means to write and writes no others, and when it gives back the locks the transaction means to write
none. -/
structure Attended (service : Service) : Prop where
  single : ∀ (ticket other : Nat) stage another transaction,
    service.chores[ticket]? = some stage → service.chores[other]? = some another →
      stage.ends? = some transaction → another.ends? = some transaction → ticket = other
  noted : ∀ (ticket : Nat) stage transaction pages, service.chores[ticket]? = some stage →
    stage.drops? = some (transaction, pages) →
      ∀ page, page ∈ pages ↔ page ∈ service.database.pool.writtenBy transaction
  covers : ∀ (ticket : Nat) stage transaction pages, service.chores[ticket]? = some stage →
    stage.drops? = some (transaction, pages) → ∀ page, stage.Visits page → page ∈ pages
  forgotten : ∀ (ticket : Nat) transaction,
    service.chores[ticket]? = some (.releasing transaction) →
      ∀ page, page ∉ service.database.pool.writtenBy transaction

theorem attended_new (start : Database) : (new start).Attended := by
  refine ⟨?_, ?_, ?_, ?_⟩
  · intro ticket other stage another transaction under
    simp [new] at under
  · intro ticket stage transaction pages under
    simp [new] at under
  · intro ticket stage transaction pages under
    simp [new] at under
  · intro ticket transaction under
    simp [new] at under

inductive Brings (service : Service) (action : ServiceAction) (ticket : Nat) (stage : Stage) :
    Prop where
  | stays (under : service.chores[ticket]? = some stage) (other : action ≠ .step ticket)
  | begins (chore : Chore) (calls : action = .call ticket chore)
      (same : stage = chore.stage service.database)
  | advances (before : Stage) (steps : action = .step ticket)
      (under : service.chores[ticket]? = some before)
      (goesOn : (before.advance service.database).2 = .onwards stage)

section

variable {service : Service} {action : ServiceAction}

theorem brings_serve {ticket : Nat} {stage : Stage}
    (under : (service.serve action).chores[ticket]? = some stage) :
    service.Brings action ticket stage := by
  unfold Service.serve at under
  cases action with
  | serve plain => exact .stays under nofun
  | beginRefused begun operation refusal cause =>
      dsimp only at under
      split at under <;> exact .stays under nofun
  | turnRefused turned refusal cause =>
      dsimp only at under
      split at under <;> exact .stays under nofun
  | appendRefused file written => exact .stays under nofun
  | call called chore =>
      change (service.chores.insert called (chore.stage service.database))[ticket]? =
        some stage at under
      rw [Std.ExtTreeMap.getElem?_insert] at under
      split at under
      · rename_i same
        rw [Std.LawfulEqCmp.compare_eq_iff_eq] at same
        cases under
        subst same
        exact .begins chore rfl rfl
      · exact .stays under nofun
  | step stepped =>
      change (service.step stepped).1.chores[ticket]? = some stage at under
      cases before : service.chores[stepped]? with
      | none =>
          unfold Service.step at under
          rw [before] at under
          refine .stays under ?_
          rintro ⟨rfl⟩
          cases before.symm.trans under
      | some old =>
          rw [step_of_stage before, chores_note] at under
          split at under
          · rename_i same
            subst same
            cases headway : (old.advance service.database).2 with
            | onwards rest =>
                rw [headway] at under
                cases under
                exact .advances old rfl before headway
            | finished result =>
                rw [headway] at under
                cases under
          · rename_i apart
            exact .stays under (fun same => apart (ServiceAction.step.inj same).symm)
  | stepRefused stepped written =>
      dsimp only at under
      cases refuses : service.stepRefused? stepped written with
      | none =>
          rw [refuses] at under
          exact .stays under nofun
      | some next =>
          obtain ⟨_, _, _, _, reached, _, _, same⟩ := stepRefused?_eq_some refuses
          rw [refuses, Option.getD_some, same (.ok ()), chores_note] at under
          split at under
          · cases under
          · exact .stays under nofun

theorem ends?_conclude {database : Database} {purpose : Purpose} {stage : Stage}
    (goesOn : (Stage.conclude database purpose).2 = .onwards stage) :
    ∃ transaction pages, purpose = .complete transaction pages ∧
      stage = .forgetting transaction := by
  cases purpose with
  | complete transaction pages =>
      cases goesOn
      exact ⟨transaction, pages, rfl, rfl⟩
  | _ => cases goesOn

theorem ends?_advance {database : Database} {before stage : Stage}
    (goesOn : (before.advance database).2 = .onwards stage) : stage.ends? = before.ends? := by
  cases before with
  | visiting pages purpose =>
      cases pages with
      | nil =>
          obtain ⟨transaction, pages, rfl, rfl⟩ := ends?_conclude goesOn
          rfl
      | cons page rest =>
          unfold Stage.advance at goesOn
          dsimp only at goesOn
          split at goesOn <;> cases goesOn <;> rfl
  | writing page frame rest purpose =>
      unfold Stage.advance at goesOn
      dsimp only at goesOn
      split at goesOn <;> cases goesOn
      rfl
  | forgetting transaction =>
      cases goesOn
      rfl
  | releasing transaction => cases goesOn

theorem drops?_advance {database : Database} {before stage : Stage}
    {dropped : TransactionId × List PageId}
    (goesOn : (before.advance database).2 = .onwards stage) (drops : stage.drops? = some dropped) :
    before.drops? = some dropped := by
  cases before with
  | visiting pages purpose =>
      cases pages with
      | nil =>
          obtain ⟨_, _, _, rfl⟩ := ends?_conclude goesOn
          cases drops
      | cons page rest =>
          unfold Stage.advance at goesOn
          dsimp only at goesOn
          split at goesOn <;> cases goesOn <;> exact drops
  | writing page frame rest purpose =>
      unfold Stage.advance at goesOn
      dsimp only at goesOn
      split at goesOn <;> cases goesOn
      exact drops
  | forgetting transaction =>
      cases goesOn
      cases drops
  | releasing transaction => cases goesOn

theorem visits_advance {database : Database} {before stage : Stage} {page : PageId}
    (goesOn : (before.advance database).2 = .onwards stage) (visits : stage.Visits page) :
    before.Visits page := by
  cases before with
  | visiting pages purpose =>
      cases pages with
      | nil =>
          obtain ⟨_, _, _, rfl⟩ := ends?_conclude goesOn
          exact visits.elim
      | cons first rest =>
          unfold Stage.advance at goesOn
          dsimp only at goesOn
          split at goesOn
          · cases goesOn
            exact List.mem_cons.mpr visits
          · cases goesOn
            exact List.mem_cons_of_mem first visits
  | writing written frame rest purpose =>
      unfold Stage.advance at goesOn
      dsimp only at goesOn
      split at goesOn <;> cases goesOn
      exact .inr visits
  | forgetting transaction =>
      cases goesOn
      exact visits.elim
  | releasing transaction => cases goesOn

theorem forgetting_of_releasing {database : Database} {before : Stage}
    {transaction : TransactionId}
    (goesOn : (before.advance database).2 = .onwards (.releasing transaction)) :
    before = .forgetting transaction := by
  cases before with
  | visiting pages purpose =>
      cases pages with
      | nil =>
          obtain ⟨_, _, _, impossible⟩ := ends?_conclude goesOn
          cases impossible
      | cons page rest =>
          unfold Stage.advance at goesOn
          dsimp only at goesOn
          split at goesOn <;> cases goesOn
  | writing page frame rest purpose =>
      unfold Stage.advance at goesOn
      dsimp only at goesOn
      split at goesOn <;> cases goesOn
  | forgetting transaction =>
      cases goesOn
      rfl
  | releasing transaction => cases goesOn

theorem ends?_of_drops? {stage : Stage} {transaction : TransactionId} {pages : List PageId}
    (drops : stage.drops? = some (transaction, pages)) : stage.ends? = some transaction := by
  have purposeEnds {purpose : Purpose} (drops : purpose.drops? = some (transaction, pages)) :
      purpose.ends? = some transaction := by
    cases purpose with
    | complete _ _ =>
        cases drops
        rfl
    | _ => cases drops
  cases stage with
  | visiting _ _ => exact purposeEnds drops
  | writing _ _ _ _ => exact purposeEnds drops
  | _ => cases drops

theorem ends?_stage (chore : Chore) (database : Database) :
    (chore.stage database).ends? = chore.ends? := by
  cases chore <;> rfl

/-- Whoever is ending after an action was before it, or begins to be ended by the action. -/
theorem Brings.ends {ticket : Nat} {stage : Stage} {transaction : TransactionId}
    (brings : service.Brings action ticket stage) (ends : stage.ends? = some transaction) :
    (∃ before, service.chores[ticket]? = some before ∧ before.ends? = some transaction) ∨
      ∃ chore, action = .call ticket chore ∧ chore.ends? = some transaction := by
  cases brings with
  | stays under _ => exact .inl ⟨stage, under, ends⟩
  | begins chore calls same =>
      rw [same, ends?_stage] at ends
      exact .inr ⟨chore, calls, ends⟩
  | advances before _ under goesOn =>
      rw [ends?_advance goesOn] at ends
      exact .inl ⟨before, under, ends⟩

theorem Makes.unnoted {transaction : TransactionId} {page : PageId} {current : Database}
    (orderly : service.Orderly action) (ending : service.Ending transaction)
    (makes : service.Makes action current (.move (.note transaction page))) : False := by
  cases makes with
  | plain same makes _ =>
      obtain ⟨ticket, task, rfl, found, rfl⟩ := makes.note
      refine orderly task.request.transaction ?_ ending
      cases action with
      | serve plain =>
          cases same
          exact congrArg (Option.map fun task => task.request.transaction) found
      | turnRefused turned refusal cause =>
          cases same
          exact congrArg (Option.map fun task => task.request.transaction) found
      | _ => cases same

theorem Makes.forget_cases {transaction : TransactionId} {current : Database}
    (proper : service.Proper action)
    (makes : service.Makes action current (.move (.forget transaction))) :
    ∃ ticket, action = .step ticket ∧ current = service.database ∧
      service.chores[ticket]? = some (.forgetting transaction) := by
  cases makes with
  | plain same makes _ =>
      exact absurd makes.forget (Engine.not_ends_of_plain (proper.plain _ same).2 transaction)
  | forget under => exact ⟨_, rfl, rfl, under⟩

/-- What a transaction that is ending means to write stays the same up to the step in which it
forgets that. -/
theorem Grounded.writtenBy_ending (grounded : service.Grounded) (proper : service.Proper action)
    (orderly : service.Orderly action) {transaction : TransactionId}
    (ending : service.Ending transaction)
    (kept : ∀ ticket, action = .step ticket →
      service.chores[ticket]? ≠ some (.forgetting transaction)) (page : PageId) :
    page ∈ (service.serve action).database.pool.writtenBy transaction ↔
      page ∈ service.database.pool.writtenBy transaction := by
  refine (grounded.serve proper).1.keeps (fun current =>
    page ∈ current.pool.writtenBy transaction ↔
      page ∈ service.database.pool.writtenBy transaction) grounded.engine.steady ?_ Iff.rfl
  intro current next stride _ same makes strides
  rw [← same]
  constructor
  · intro member
    rcases strides.mem_writtenBy member with before | ⟨rfl, _⟩
    · exact before
    · exact (makes.unnoted orderly ending).elim
  · intro member
    refine strides.keeps_writtenBy ?_ member
    rintro rfl
    obtain ⟨ticket, steps, _, under⟩ := makes.forget_cases proper
    exact kept ticket steps under

theorem Attended.serve (attended : service.Attended) (grounded : service.Grounded)
    (proper : service.Proper action) (orderly : service.Orderly action) :
    (service.serve action).Attended := by
  -- Whoever is called to end is not ending already.
  have fresh {called : Nat} {chore : Chore} {transaction : TransactionId}
      (calls : action = .call called chore) (ends : chore.ends? = some transaction) :
      ¬service.Ending transaction := by
    subst calls
    exact orderly transaction ends
  -- Nobody else forgets what the transaction means to write.
  have kept {ticket : Nat} {stage : Stage} {transaction : TransactionId}
      (under : service.chores[ticket]? = some stage) (ends : stage.ends? = some transaction)
      (goesOn : stage = .forgetting transaction → action ≠ .step ticket) (page : PageId) :
      page ∈ (service.serve action).database.pool.writtenBy transaction ↔
        page ∈ service.database.pool.writtenBy transaction := by
    refine grounded.writtenBy_ending proper orderly ⟨ticket, stage, under, ends⟩ ?_ page
    intro other steps forgets
    cases attended.single ticket other stage _ transaction under forgets ends rfl
    cases under.symm.trans forgets
    exact goesOn rfl steps
  refine ⟨?_, ?_, ?_, ?_⟩
  · intro ticket other stage another transaction under underOther ends endsOther
    rcases (brings_serve under).ends ends with ⟨before, was, same⟩ | ⟨chore, calls, same⟩
    · rcases (brings_serve underOther).ends endsOther with
        ⟨beforeOther, wasOther, sameOther⟩ | ⟨chore, calls, sameOther⟩
      · exact attended.single ticket other before beforeOther transaction was wasOther same
          sameOther
      · exact absurd ⟨ticket, before, was, same⟩ (fresh calls sameOther)
    · rcases (brings_serve underOther).ends endsOther with
        ⟨beforeOther, wasOther, sameOther⟩ | ⟨choreOther, callsOther, _⟩
      · exact absurd ⟨other, beforeOther, wasOther, sameOther⟩ (fresh calls same)
      · cases calls.symm.trans callsOther
        rfl
  · intro ticket stage transaction pages under drops page
    cases brings_serve under with
    | stays before _ =>
        rw [kept before (ends?_of_drops? drops)]
        · exact attended.noted ticket stage transaction pages before drops page
        · rintro rfl
          cases drops
    | begins chore calls same =>
        subst calls same
        cases chore with
        | commit _ =>
            cases drops
            exact Iff.rfl
        | abort _ =>
            cases drops
            exact Iff.rfl
        | _ => cases drops
    | advances before steps was goesOn =>
        have dropped := drops?_advance goesOn drops
        rw [kept was (ends?_of_drops? dropped)]
        · exact attended.noted ticket before transaction pages was dropped page
        · rintro rfl
          cases dropped
  · intro ticket stage transaction pages under drops page visits
    cases brings_serve under with
    | stays before _ => exact attended.covers ticket stage transaction pages before drops page visits
    | begins chore calls same =>
        subst same
        cases chore with
        | commit _ =>
            cases drops
            exact visits
        | abort _ => cases visits
        | _ => cases drops
    | advances before steps was goesOn =>
        exact attended.covers ticket before transaction pages was (drops?_advance goesOn drops) page
          (visits_advance goesOn visits)
  · intro ticket transaction under page
    cases brings_serve under with
    | stays before _ =>
        rw [kept before rfl nofun]
        exact attended.forgotten ticket transaction before page
    | begins chore calls same => cases chore <;> cases same
    | advances before steps was goesOn =>
        obtain rfl := forgetting_of_releasing goesOn
        subst steps
        rw [serve, step_of_stage was]
        intro member
        rw [Service.database, engine_note] at member
        exact (Pool.mem_writtenBy_forgetWrites.mp member).1 rfl

theorem inTurn_serveEach {actions : List ServiceAction} (inTurn : service.Along InTurn actions)
    (grounded : service.Grounded) (attended : service.Attended) :
    (service.serveEach actions).Grounded ∧ (service.serveEach actions).Attended := by
  refine inTurn.keeps (fun service => service.Grounded ∧ service.Attended) ?_ ⟨grounded, attended⟩
  intro service action both inTurn
  obtain ⟨grounded, attended⟩ := both
  exact ⟨(grounded.serve inTurn.proper).2,
    attended.serve grounded inTurn.proper inTurn.orderly⟩

end

end Service

namespace ServiceAction

/-- A lock on the page is given back before its transaction ends, or the page is dropped by its
name. -/
def Yields (action : ServiceAction) (page : PageId) : Prop :=
  ∃ plain ∈ action.plain?, plain.Yields page

instance (action : ServiceAction) (page : PageId) : Decidable (action.Yields page) :=
  inferInstanceAs (Decidable (∃ plain ∈ action.plain?, plain.Yields page))

def Releases (action : ServiceAction) (page : PageId) : Prop :=
  ∃ plain ∈ action.plain?, plain.Releases page

instance (action : ServiceAction) (page : PageId) : Decidable (action.Releases page) :=
  inferInstanceAs (Decidable (∃ plain ∈ action.plain?, plain.Releases page))

theorem ne_release {action : ServiceAction} {page : PageId} (unreleased : ¬action.Releases page)
    (transaction : TransactionId) : ∀ plain ∈ action.plain?, plain ≠ .release transaction page := by
  rintro plain same rfl
  exact unreleased ⟨_, same, rfl⟩

def recatalogues (action : ServiceAction) : Bool :=
  action.plain?.any DatabaseAction.recatalogues

theorem not_releases {action : ServiceAction} {page : PageId} (keeps : ¬action.Yields page) :
    ¬action.Releases page := by
  rintro ⟨plain, same, releases⟩
  exact keeps ⟨plain, same, .inl releases⟩

end ServiceAction

namespace Service

/-- The locks of the transaction are given back, which is the last that is done to end it. -/
def Frees (service : Service) (transaction : TransactionId) : ServiceAction → Prop
  | .step ticket => service.chores[ticket]? = some (.releasing transaction)
  | _ => False

instance (service : Service) (transaction : TransactionId) :
    (action : ServiceAction) → Decidable (service.Frees transaction action)
  | .step ticket =>
      inferInstanceAs (Decidable (service.chores[ticket]? = some (.releasing transaction)))
  | .serve _ | .beginRefused _ _ _ _ | .turnRefused _ _ _ | .appendRefused _ _ | .call _ _
  | .stepRefused _ _ => isFalse id

def Rewrites (service : Service) (transaction : TransactionId) (page : PageId) :
    ServiceAction → Prop
  | .serve action => service.engine.Rewrites transaction page action
  | _ => False

instance (service : Service) (transaction : TransactionId) (page : PageId) :
    (action : ServiceAction) → Decidable (service.Rewrites transaction page action)
  | .serve action =>
      inferInstanceAs (Decidable (service.engine.Rewrites transaction page action))
  | .beginRefused _ _ _ _ | .turnRefused _ _ _ | .appendRefused _ _ | .call _ _ | .step _
  | .stepRefused _ _ => isFalse id

structure Within (service : Service) (action : ServiceAction) (current : Database) : Prop where
  numbering : current.numbering = service.database.numbering
  catalog : current.catalog = service.database.catalog ∨ action.recatalogues = true

section

variable {service : Service} {action : ServiceAction} {current next : Database} {stride : Stride}
  {transaction : TransactionId} {page : PageId}

theorem Makes.recatalogues {catalog : Catalog}
    (makes : service.Makes action current (.move (.recatalogue catalog))) :
    action.recatalogues = true := by
  cases makes with
  | plain same makes _ =>
      unfold ServiceAction.recatalogues
      rw [same]
      exact makes.recatalogues

theorem Within.strides (within : service.Within action current)
    (makes : service.Makes action current stride) (strides : current.Strides stride next) :
    service.Within action next := by
  refine ⟨strides.numbering.trans within.numbering, ?_⟩
  rw [strides.catalog]
  split
  · exact .inr makes.recatalogues
  · exact within.catalog

theorem Within.catalog_eq (within : service.Within action current)
    (fixed : action.recatalogues = false) : current.catalog = service.database.catalog := by
  rcases within.catalog with same | recatalogues
  · exact same
  · cases recatalogues.symm.trans fixed

theorem Grounded.serve_keeps (grounded : service.Grounded) (proper : service.Proper action)
    (kept : Database → Prop)
    (step : ∀ current next stride, current.Steady → service.Within action current →
      kept current → service.Makes action current stride → current.Strides stride next →
        kept next)
    (start : kept service.database) : kept (service.serve action).database := by
  have both := (grounded.serve proper).1.keeps
    (fun current => service.Within action current ∧ kept current) grounded.engine.steady
    (fun current next stride steady holds makes strides => ⟨holds.1.strides makes strides,
      step current next stride steady holds.1 holds.2 makes strides⟩) ⟨⟨rfl, .inl rfl⟩, start⟩
  exact both.2

/-! ### Pages to oneself -/

/-- A transaction gives back all its locks in the last step of a chore that ends it. -/
theorem Makes.frees (makes : service.Makes action current (.move (.lock (.releaseAll transaction))))
    (proper : service.Proper action) :
    service.Frees transaction action ∧ current = service.database := by
  cases makes with
  | plain same makes _ =>
      cases makes.locks with
      | releaseAll ends _ _ =>
          exact absurd ends (Engine.not_ends_of_plain (proper.plain _ same).2 transaction)
  | release under => exact ⟨under, rfl⟩

/-- A page that somebody has to himself is so after a stride that is neither its release nor its
holder's end. -/
theorem Makes.alone (makes : service.Makes action current stride)
    (strides : current.Strides stride next)
    (unreleased : ∀ plain ∈ action.plain?, plain ≠ .release transaction page)
    (goesOn : stride ≠ .move (.lock (.releaseAll transaction)))
    (alone : current.pool.locks.lockMode? transaction page = some .exclusive) :
    next.pool.locks.lockMode? transaction page = some .exclusive := by
  cases strides with
  | move moves =>
      cases moves with
      | lock locking =>
          have notReleased : locking ≠ .release transaction page := by
            rintro rfl
            cases makes with
            | plain same makes _ =>
                cases makes.locks
                exact unreleased _ same rfl
          have notEnded : locking ≠ .releaseAll transaction := by
            rintro rfl
            exact goesOn rfl
          obtain ⟨held, mode, covers⟩ :=
            LockTable.lockMode?_perform_covers alone notReleased notEnded
          exact mode.trans (congrArg some (covers rfl))
      | _ => exact alone
  | _ => exact alone

private theorem Attended.unfreed (attended : service.Attended) (proper : service.Proper action)
    (makes : service.Makes action current stride)
    (noted : page ∈ current.pool.writtenBy transaction) :
    stride ≠ .move (.lock (.releaseAll transaction)) := by
  rintro rfl
  obtain ⟨frees, rfl⟩ := makes.frees proper
  cases action with
  | step ticket => exact attended.forgotten ticket transaction frees page noted
  | _ => exact frees.elim

theorem Attended.reserved (attended : service.Attended) (proper : service.Proper action)
    (makes : service.Makes action current stride) (strides : current.Strides stride next)
    (unreleased : ¬action.Releases page) (reserved : current.Reserved page) :
    next.Reserved page := by
  intro other member
  rcases strides.mem_writtenBy member with before | ⟨rfl, alone⟩
  · exact makes.alone strides (ServiceAction.ne_release unreleased other) (attended.unfreed proper makes before)
      (reserved other before)
  · have locks := strides.locks
    rw [locks]
    exact alone

theorem Attended.holds (attended : service.Attended) (proper : service.Proper action)
    (makes : service.Makes action current stride) (strides : current.Strides stride next)
    (unreleased : ¬action.Releases page) (goesOn : ¬service.Frees transaction action)
    (holds : current.Holds transaction page) : next.Holds transaction page := by
  refine ⟨attended.reserved proper makes strides unreleased holds.reserved,
    makes.alone strides (ServiceAction.ne_release unreleased transaction) ?_ holds.alone⟩
  rintro rfl
  exact goesOn (makes.frees proper).1

theorem Grounded.reserved (grounded : service.Grounded) (attended : service.Attended)
    (proper : service.Proper action) (unreleased : ¬action.Releases page)
    (reserved : service.database.Reserved page) :
    (service.serve action).database.Reserved page :=
  grounded.serve_keeps proper (fun current => current.Reserved page)
    (fun _ _ _ _ _ reserved makes strides =>
      attended.reserved proper makes strides unreleased reserved) reserved

theorem Grounded.reserved_each (grounded : service.Grounded) (attended : service.Attended)
    {actions : List ServiceAction} (inTurn : service.Along InTurn actions)
    (unreleased : ∀ action ∈ actions, ¬action.Releases page)
    (reserved : service.database.Reserved page) :
    (service.serveEach actions).database.Reserved page := by
  have all := (inTurn.and (along_of_forall unreleased)).keeps
    (fun service => service.Grounded ∧ service.Attended ∧ service.database.Reserved page) ?_
    ⟨grounded, attended, reserved⟩
  · exact all.2.2
  · intro service action all allowed
    obtain ⟨grounded, attended, reserved⟩ := all
    obtain ⟨inTurn, unreleased⟩ := allowed
    exact ⟨(grounded.serve inTurn.proper).2,
      attended.serve grounded inTurn.proper inTurn.orderly,
      grounded.reserved attended inTurn.proper unreleased reserved⟩

theorem Grounded.holds (grounded : service.Grounded) (attended : service.Attended)
    (proper : service.Proper action) (unreleased : ¬action.Releases page)
    (goesOn : ¬service.Frees transaction action)
    (holds : service.database.Holds transaction page) :
    (service.serve action).database.Holds transaction page :=
  grounded.serve_keeps proper (fun current => current.Holds transaction page)
    (fun _ _ _ _ _ holds makes strides =>
      attended.holds proper makes strides unreleased goesOn holds) holds

/-- A page is dropped on purpose with a transaction that means to write it, or by its name. -/
theorem Makes.drops (makes : service.Makes action current (.move (.drop page)))
    (proper : service.Proper action) :
    (∃ ticket transaction pages, action = .step ticket ∧
      service.chores[ticket]? = some (.visiting [] (.complete transaction pages)) ∧
        page ∈ pages) ∨ action.Yields page := by
  cases makes with
  | plain same makes _ =>
      rcases makes.drop with ⟨other, ends, _⟩ | discards
      · exact absurd ends (Engine.not_ends_of_plain (proper.plain _ same).2 other)
      · exact .inr ⟨_, same, .inr discards⟩
  | drop under member => exact .inl ⟨_, _, _, rfl, under, member⟩

theorem Makes.drop_of_holds (makes : service.Makes action current (.move (.drop page)))
    (steady : service.database.Steady) (attended : service.Attended)
    (proper : service.Proper action) (holds : service.database.Holds transaction page)
    (keeps : ¬action.Yields page) :
    ∃ ticket pages, action = .step ticket ∧
      service.chores[ticket]? = some (.visiting [] (.complete transaction pages)) := by
  rcases makes.drops proper with ⟨ticket, other, pages, steps, under, member⟩ | yields
  · have noted := (attended.noted ticket _ other pages under rfl page).mp member
    cases holds.eq_of_mem steady noted
    exact ⟨ticket, pages, steps, under⟩
  · exact absurd yields keeps

/-- Only who rewrites a page edits the frame that it is in, if one transaction has it to itself. -/
theorem Makes.rewrites (steady : current.Steady) {frame : Nat} {edits : List PageEdit}
    (makes : service.Makes action current (.move (.edit frame edits))) {content : Page}
    (held : current.pool.frames[frame]? = some content)
    (holds : current.Holds transaction content.id) :
    service.Rewrites transaction content.id action := by
  cases makes with
  | plain _ makes whole =>
      cases whole frame edits rfl
      exact makes.rewrites steady held holds

theorem reserved_new {start : Database} (setUp : start.SetUp) (page : PageId) :
    (new start).database.Reserved page :=
  Engine.reserved_new setUp page

end

end Service

end RowStore
