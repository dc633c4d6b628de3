import RowStore.Proofs.Database.Samples
import RowStore.Proofs.Service.Ordinary
import RowStore.Proofs.Service.Provenance

/-!
Early releases: whoever gives back the lock on a page before it ends means to write the page still,
and takes it along when it ends, with the changes that others have made since. The changes of a
transaction are on the disk once it has committed, unless its page was dropped that way or an older
copy was written over it, and they are not there once it has aborted, unless its page was written
back that way.
-/

set_option autoImplicit false

namespace RowStore

namespace Stage

def Takes (transaction : TransactionId) (page : PageId) : Stage → Prop
  | .visiting [] (.complete other pages) => other ≠ transaction ∧ page ∈ pages
  | _ => False

instance (transaction : TransactionId) (page : PageId) :
    (stage : Stage) → Decidable (stage.Takes transaction page)
  | .visiting [] (.complete other pages) =>
      inferInstanceAs (Decidable (other ≠ transaction ∧ page ∈ pages))
  | .visiting [] .write | .visiting [] .clear | .visiting (_ :: _) _ | .writing _ _ _ _
  | .forgetting _ | .releasing _ => isFalse id

/-- A frame of the page is about to be written that has changes, but not to end the transaction. -/
def Carries (database : Database) (transaction : TransactionId) (page : PageId) : Stage → Prop
  | .writing written frame _ purpose =>
      written = page ∧ purpose.ends? ≠ some transaction ∧
        database.pool.frames[frame]?.any Page.isDirty = true
  | _ => False

instance (database : Database) (transaction : TransactionId) (page : PageId) :
    (stage : Stage) → Decidable (stage.Carries database transaction page)
  | .writing written frame _ purpose =>
      inferInstanceAs (Decidable (written = page ∧ purpose.ends? ≠ some transaction ∧
        database.pool.frames[frame]?.any Page.isDirty = true))
  | .visiting _ _ | .forgetting _ | .releasing _ => isFalse id

end Stage

namespace Service

/-- Another transaction drops the page, which it meant to write and which has changes in the pool. -/
def DropsChanges (service : Service) (transaction : TransactionId) (page : PageId) :
    ServiceAction → Prop
  | .step ticket => (∃ stage ∈ service.chores[ticket]?, stage.Takes transaction page) ∧
      (service.database.pool.unsaved? page).isSome = true
  | _ => False

instance (service : Service) (transaction : TransactionId) (page : PageId) :
    (action : ServiceAction) → Decidable (service.DropsChanges transaction page action)
  | .step ticket =>
      inferInstanceAs (Decidable ((∃ stage ∈ service.chores[ticket]?,
        stage.Takes transaction page) ∧ (service.database.pool.unsaved? page).isSome = true))
  | .serve _ | .beginRefused _ _ _ _ | .turnRefused _ _ _ | .appendRefused _ _ | .call _ _
  | .stepRefused _ _ => isFalse id

/-- Changes of the page are written back, but not to end the transaction. -/
def SavesChanges (service : Service) (transaction : TransactionId) (page : PageId) :
    ServiceAction → Prop
  | .step ticket =>
      ∃ stage ∈ service.chores[ticket]?, stage.Carries service.database transaction page
  | _ => False

instance (service : Service) (transaction : TransactionId) (page : PageId) :
    (action : ServiceAction) → Decidable (service.SavesChanges transaction page action)
  | .step ticket =>
      inferInstanceAs (Decidable (∃ stage ∈ service.chores[ticket]?,
        stage.Carries service.database transaction page))
  | .serve _ | .beginRefused _ _ _ _ | .turnRefused _ _ _ | .appendRefused _ _ | .call _ _
  | .stepRefused _ _ => isFalse id

structure Keeps (transaction : TransactionId) (page : PageId) (service : Service)
    (action : ServiceAction) : Prop where
  unreleased : action ≠ .serve (.release transaction page)
  goesOn : ¬service.Frees transaction action

instance (transaction : TransactionId) (page : PageId) (service : Service)
    (action : ServiceAction) : Decidable (Keeps transaction page service action) :=
  decidable_of_iff (action ≠ .serve (.release transaction page) ∧
      ¬service.Frees transaction action)
    ⟨fun both => ⟨both.1, both.2⟩, fun keeps => ⟨keeps.unreleased, keeps.goesOn⟩⟩

/-- Nothing of what the transaction has done to the record is lost: nobody else drops the page with
changes or writes an older copy of it, and the record is not changed again. -/
structure Minding (transaction : TransactionId) (record : RecordId) (service : Service)
    (action : ServiceAction) : Prop where
  kept : ¬service.DropsChanges transaction record.page action
  recent : ¬service.Overwrites record.page action
  unchanged : ∀ later ∈ service.changes action, later.record ≠ record

instance (transaction : TransactionId) (record : RecordId) (service : Service)
    (action : ServiceAction) : Decidable (Minding transaction record service action) :=
  decidable_of_iff (¬service.DropsChanges transaction record.page action ∧
      ¬service.Overwrites record.page action ∧
        ∀ later ∈ service.changes action, later.record ≠ record)
    ⟨fun all => ⟨all.1, all.2.1, all.2.2⟩,
      fun minding => ⟨minding.kept, minding.recent, minding.unchanged⟩⟩

/-- The transaction has the page of the record to itself and means to write it, all chores save the
page before they drop it for its end, and these are the fields that are going to be under the
record. -/
structure Owes (service : Service) (transaction : TransactionId) (record : RecordId)
    (fields : Option (List Field)) : Prop where
  regular : service.Regular
  alone : service.database.pool.locks.lockMode? transaction record.page = some .exclusive
  noted : record.page ∈ service.database.pool.writtenBy transaction ∨
    ∃ ticket : Nat, service.chores[ticket]? = some (.releasing transaction)
  saves : ∀ (ticket : Nat) stage, service.chores[ticket]? = some stage →
    stage.Saves service.database record.page (some transaction)
  promises : service.database.Promises record fields

section

variable {service : Service} {action : ServiceAction} {transaction : TransactionId}
  {record : RecordId} {fields : Option (List Field)} {current : Database} {stride : Stride}
  {page : PageId}

/-! ### Changes that are kept -/

private theorem Usual.ne_release (usual : service.Usual action)
    (unreleased : action ≠ .serve (.release transaction page)) :
    ∀ plain ∈ action.plain?, plain ≠ .release transaction page := by
  rintro plain same rfl
  cases action with
  | serve asked =>
      cases same
      exact unreleased rfl
  | call _ _ => cases same
  | step _ => cases same
  | _ => exact usual.elim

/-- An ordinary action changes a page for an operation that has it to itself, and changes one record
of it. -/
private theorem Makes.edit_cases {frame : Nat} {edits : List PageEdit}
    (makes : service.Makes action current (.move (.edit frame edits)))
    (usual : service.Usual action) (steady : current.Steady) {content : Page}
    (found : current.pool.residentFrame? page = some (frame, content)) :
    ∃ ticket task call change, action = .serve (.perform (.turn ticket)) ∧
      service.engine.tasks[ticket]? = some task ∧
      edits = [call, .mark (some task.request.transaction)] ∧
      current.pool.locks.lockMode? task.request.transaction page = some .exclusive ∧
      content.Takes (content.edit call) change ∧ change ∈ service.changes action := by
  cases makes with
  | plain _ makes whole =>
      cases whole _ _ rfl
      cases makes.edits with
      | turn foundTask _ resident alone _ _ takes =>
          cases (Pool.residentFrame?_eq_some.mp found).2.symm.trans
            (Pool.residentFrame?_eq_some.mp resident).2
          obtain ⟨change, shown, takes⟩ := takes
          have same := (steady.sound.id_eq resident).symm.trans (steady.sound.id_eq found)
          rw [same] at alone
          exact ⟨_, _, _, change, rfl, foundTask, rfl, alone, takes, shown⟩
      | edit _ => exact usual.elim

theorem Regular.alone (regular : service.Regular) (usual : service.Usual action)
    (keeps : Keeps transaction page service action)
    (alone : service.database.pool.locks.lockMode? transaction page = some .exclusive) :
    (service.serve action).database.pool.locks.lockMode? transaction page = some .exclusive := by
  refine (regular.serve_keeps usual (fun current =>
    current.pool.locks.lockMode? transaction page = some .exclusive) ?_ alone).2
  intro current next stride _ _ alone makes _ strides
  refine makes.alone strides (usual.ne_release keeps.unreleased) ?_ alone
  rintro rfl
  exact keeps.goesOn (makes.frees usual.proper).1

private theorem Owes.unaltered (owes : service.Owes transaction record fields)
    (ordinary : service.Ordinary action) (keeps : Keeps transaction record.page service action)
    (ending : service.Ending transaction) : service.Unaltered action record.page := by
  have usual := ordinary.usual
  refine owes.regular.grounded.unaltered usual.proper (fun current =>
    current.pool.locks.lockMode? transaction record.page = some .exclusive) ?_ owes.alone ?_
  · intro current next stride alone makes strides
    refine makes.alone strides (usual.ne_release keeps.unreleased) ?_ alone
    rintro rfl
    exact keeps.goesOn (makes.frees usual.proper).1
  · intro current frame edits content steady alone makes found
    obtain ⟨ticket, task, _, _, rfl, foundTask, _, aloneTask, _, _⟩ :=
      makes.edit_cases usual steady found
    have same := (steady.exclusive record.page).eq_of_modeOf? alone aloneTask
    refine ordinary.orderly transaction ?_ ending
    rw [← same]
    exact congrArg (Option.map fun task => task.request.transaction) foundTask

private theorem Owes.saves_serve (owes : service.Owes transaction record fields)
    (ordinary : service.Ordinary action) (keeps : Keeps transaction record.page service action)
    (unaborted : ¬action.Aborts transaction) {ticket : Nat} {stage : Stage}
    (under : (service.serve action).chores[ticket]? = some stage) :
    stage.Saves (service.serve action).database record.page (some transaction) := by
  have brings := brings_serve under
  by_cases ending : service.Ending transaction
  · refine (owes.unaltered ordinary keeps ending).saves owes.regular.grounded brings
      (owes.saves ticket) ?_
    rintro chore rfl
    refine (ordinary.proper.chore ticket chore rfl).saves ?_ ?_
    · rintro _ ⟨rfl⟩ rfl
      exact unaborted rfl
    · rintro _ ⟨rfl⟩ rfl
      exact absurd ending (ordinary.orderly transaction rfl)
  · have filled := (owes.regular.serve ordinary).filled ticket stage under
    by_cases ends : stage.ends? = some transaction
    · rcases brings.ends ends with ⟨before, was, same⟩ | ⟨chore, rfl, same⟩
      · exact absurd ⟨ticket, before, was, same⟩ ending
      · -- The transaction is called to commit, while it means to write the page.
        change (service.chores.insert ticket _)[ticket]? = some stage at under
        rw [Std.ExtTreeMap.getElem?_insert_self] at under
        cases under
        refine (ordinary.proper.chore ticket chore rfl).saves ?_ ?_
        · rintro _ ⟨rfl⟩ rfl
          exact unaborted rfl
        · rintro _ ⟨rfl⟩ rfl
          refine owes.noted.resolve_right ?_
          rintro ⟨other, releasing⟩
          exact ending ⟨other, _, releasing, rfl⟩
    · exact Stage.saves_of_idle filled ends _ _

private theorem Owes.undropped (owes : service.Owes transaction record fields)
    (usual : service.Usual action) (kept : ¬service.DropsChanges transaction record.page action)
    (drops : service.Drops record.page action) :
    service.database.pool.unsaved? record.page = none := by
  cases action with
  | step ticket =>
      obtain ⟨purpose, under, discards⟩ := drops
      cases purpose with
      | write => exact discards.elim
      | clear => cases owes.regular.filled ticket _ under
      | complete other pages =>
          by_cases same : other = transaction
          · subst same
            exact (owes.saves ticket _ under rfl).resolve_right List.not_mem_nil
          · refine Option.not_isSome_iff_eq_none.mp fun dirty => kept ⟨⟨_, under, ?_⟩, dirty⟩
            exact ⟨same, discards⟩
  | serve plain =>
      obtain rfl : plain = .discard record.page := drops
      exact usual.elim
  | _ => exact drops.elim

private theorem Owes.promises_serve (owes : service.Owes transaction record fields)
    (usual : service.Usual action) (minding : Minding transaction record service action) :
    (service.serve action).database.Promises record fields := by
  have both := owes.regular.serve_keeps usual (fun current =>
    (service.Drops record.page action → current.pool.unsaved? record.page = none) ∧
      current.Promises record fields) ?_
    ⟨owes.undropped usual minding.kept, owes.promises⟩
  · exact both.2.2
  · intro current next stride steady backed both makes ordinary strides
    obtain ⟨undropped, promises⟩ := both
    refine ⟨fun drops => strides.saved steady ?_ (undropped drops), ?_⟩
    · rintro frame edits content rfl found
      obtain ⟨_, _, _, _, rfl, _⟩ := makes.edit_cases usual steady found
      cases drops
    · refine strides.promises ordinary steady backed ?_ ?_ ?_ promises
      · intro drops
        exact undropped (makes.discards usual.proper (.inl drops))
      · exact fun writes => makes.recent strides writes minding.recent
      · rintro frame call owner content rfl found
        obtain ⟨_, _, _, change, _, _, same, _, takes, shown⟩ :=
          makes.edit_cases usual steady found
        cases same
        refine (takes.rows record.slot).trans (if_neg ?_)
        intro sameSlot
        refine minding.unchanged change shown ?_
        rw [RecordId.mk.injEq]
        exact ⟨takes.own.trans (steady.sound.id_eq found), sameSlot.symm⟩

/-- What is owed stays owed while the transaction goes on and nothing of it is lost. -/
theorem Owes.serve (owes : service.Owes transaction record fields)
    (ordinary : service.Ordinary action) (keeps : Keeps transaction record.page service action)
    (unaborted : ¬action.Aborts transaction)
    (minding : Minding transaction record service action) :
    (service.serve action).Owes transaction record fields := by
  refine ⟨owes.regular.serve ordinary, owes.regular.alone ordinary.usual keeps owes.alone, ?_,
    fun ticket stage under => owes.saves_serve ordinary keeps unaborted under,
    owes.promises_serve ordinary.usual minding⟩
  rcases owes.noted with noted | ⟨ticket, under⟩
  · exact owes.regular.grounded.noted ordinary.proper noted
  · refine .inr ⟨ticket, stays ordinary.proper under ?_ nofun⟩
    rintro rfl
    exact keeps.goesOn under

/-! ### Changes that begin -/

/-- The transaction has the page of the record to itself and means to write it, and these are the
fields that are going to be under the record. -/
private structure Secures (database : Database) (transaction : TransactionId) (record : RecordId)
    (fields : Option (List Field)) : Prop where
  alone : database.pool.locks.lockMode? transaction record.page = some .exclusive
  noted : record.page ∈ database.pool.writtenBy transaction
  promises : database.Promises record fields

private theorem Secures.readies {database next : Database} {task : Task} {move : Move}
    (secures : Secures database transaction record fields) (steady : database.Steady)
    (backed : database.Backed) (readies : task.Readies move)
    (ordinary : Stride.Ordinary database (.move move)) (moves : database.Moves move next) :
    Secures next transaction record fields := by
  have still : move ≠ .forget transaction ∧ move ≠ .drop record.page ∧
      ¬Stride.WritesTo record.page (.move move) ∧ (∀ frame edits, move ≠ .edit frame edits) ∧
      next.pool.locks = database.pool.locks := by
    rw [moves.locks]
    cases readies with
    | fetch fetches => cases fetches <;> exact ⟨nofun, nofun, id, nofun, rfl⟩
    | _ => exact ⟨nofun, nofun, id, nofun, rfl⟩
  obtain ⟨unforgotten, undropped, unwritten, unedited, locks⟩ := still
  refine ⟨?_, moves.keeps_writtenBy unforgotten secures.noted,
    Database.Strides.promises (.move moves) ordinary steady backed ?_ ?_ ?_ secures.promises⟩
  · rw [locks]
    exact secures.alone
  · exact fun drops => absurd (Stride.move.inj drops) undropped
  · exact fun writes => absurd writes unwritten
  · exact fun frame call owner content edits =>
      absurd (Stride.move.inj edits) (unedited frame _)

/-- The rows of a page stay on the disk as they are while nobody writes back its changes. -/
theorem Regular.stored (regular : service.Regular) (usual : service.Usual action)
    (unsaved : ∀ ticket frame rest purpose, action = .step ticket →
      service.chores[ticket]? = some (.writing record.page frame rest purpose) →
        service.database.pool.frames[frame]?.any Page.isDirty = false) :
    (service.serve action).database.stored record = service.database.stored record := by
  refine (regular.serve_keeps usual
    (fun current => current.stored record = service.database.stored record) ?_ rfl).2
  intro current next stride steady backed same makes ordinary strides
  refine (strides.stored ordinary steady backed ?_).trans same
  intro writes
  obtain ⟨frame, content, held, dirty, _, here, _⟩ :=
    strides.writes ordinary steady backed writes
  have carried (ticket : Nat) (rest : List PageId) (purpose : Purpose)
      (steps : action = .step ticket)
      (under : service.chores[ticket]? = some (.writing record.page frame rest purpose))
      (now : current = service.database) : False := by
    have idle := unsaved ticket frame rest purpose steps under
    rw [← now, held, Option.any_some, dirty] at idle
    cases idle
  rcases here with ⟨rfl, resident⟩ | ⟨rfl, _⟩
  · cases makes with
    | @plain _ plain _ _ same makes _ =>
        cases makes.writes.isChore.symm.trans (usual.proper.plain plain same).2
    | save under found =>
        cases found.symm.trans resident
        exact carried _ _ _ rfl under rfl
  · cases makes with
    | copy under => exact carried _ _ _ rfl under rfl

def Unwriting (service : Service) (transaction : TransactionId) : Prop :=
  ∀ (ticket : Nat) stage, service.chores[ticket]? = some stage →
    stage.ends? = some transaction → ∀ page, ¬stage.Visits page

theorem Unwriting.serve (unwriting : service.Unwriting transaction)
    (uncommitted : ∀ ticket, action ≠ .call ticket (.commit transaction)) :
    (service.serve action).Unwriting transaction := by
  intro ticket stage under ends page
  cases brings_serve under with
  | stays before _ => exact unwriting ticket stage before ends page
  | begins chore calls same =>
      rw [same, ends?_stage] at ends
      subst same
      cases chore with
      | commit other =>
          cases ends
          exact absurd calls (uncommitted ticket)
      | abort other => exact List.not_mem_nil
      | _ => cases ends
  | advances before _ was goesOn =>
      rw [ends?_advance goesOn] at ends
      exact fun visits => unwriting ticket before was ends page (visits_advance goesOn visits)

private theorem Unwriting.unsaved (unwriting : service.Unwriting transaction)
    (unsaved : ¬service.SavesChanges transaction page action) {ticket frame : Nat}
    {rest : List PageId} {purpose : Purpose} (steps : action = .step ticket)
    (under : service.chores[ticket]? = some (.writing page frame rest purpose)) :
    service.database.pool.frames[frame]?.any Page.isDirty = false := by
  subst steps
  by_cases ends : purpose.ends? = some transaction
  · exact absurd (.inl rfl) (unwriting ticket _ under ends page)
  · exact Bool.eq_false_iff.mpr fun dirty => unsaved ⟨_, under, rfl, ends, dirty⟩

end

/-! ### Along a history -/

end Service

end RowStore
