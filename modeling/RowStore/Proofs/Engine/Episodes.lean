import RowStore.Proofs.Database.Listing
import RowStore.Proofs.Engine.Undisturbed
import RowStore.Proofs.Engine.Views

/-!
Episodes: transactions that run one after another, each with calls that store and delete rows of one
table, and each committed or aborted in the end. A map of the rows is kept beside the engine, and
the contents of the table agree with it after every call and after every episode.
-/

set_option autoImplicit false

namespace RowStore

/-! ### Calls and episodes -/

inductive Call where
  | insert (row : Row) (typed : row.Typed)
  | delete (row : Row)

def Call.operation (transaction : TransactionId) (table : TableId) : Call → Operation
  | .insert row _ => .insert transaction table row
  | .delete row => .delete transaction row

theorem Call.transactional (call : Call) (transaction : TransactionId) (table : TableId) :
    (call.operation transaction table).Transactional := by
  cases call with
  | insert row typed => exact typed
  | delete row => trivial

theorem Call.transaction_operation (call : Call) (transaction : TransactionId) (table : TableId) :
    (call.operation transaction table).transaction = transaction := by
  cases call <;> rfl

theorem Call.table_of_stores {call : Call} {transaction : TransactionId} {table : TableId}
    {outcome : Outcome} {change : Change}
    (changes : (call.operation transaction table).change? outcome = some change)
    (place : (call.operation transaction table).table? = some change.record.page.table)
    (stores : change.fields.isSome) : change.record.page.table = table := by
  cases call with
  | insert row typed => exact (Option.some.inj place).symm
  | delete row =>
      cases outcome with
      | deleted page =>
          obtain ⟨record, _, rfl⟩ := Option.map_eq_some_iff.mp changes
          cases stores
      | _ => cases changes

/-- A transaction with its calls, one after another, and its end. -/
structure Episode where
  transaction : TransactionId
  calls : List Call
  commits : Bool

def Episode.ending (episode : Episode) : EngineAction :=
  if episode.commits then .commit episode.transaction else .abort episode.transaction

namespace Engine

/-- Makes a call. If it succeeds, the map gets the row that was stored, under the record that the
answer has, or loses the one that was deleted. -/
def call (engine : Engine) (rows : Rows) (transaction : TransactionId) (table : TableId)
    (call : Call) : Option (Engine × Rows) :=
  match engine.submit 0 (call.operation transaction table) with
  | (_, none) => none
  | (next, some outcome) =>
      ((call.operation transaction table).change? outcome).map
        (fun change => (next, rows.after change))

def callEach (engine : Engine) (rows : Rows) (transaction : TransactionId) (table : TableId) :
    List Call → Option (Engine × Rows)
  | [] => some (engine, rows)
  | call :: rest =>
      match engine.call rows transaction table call with
      | none => none
      | some (next, changed) => next.callEach changed transaction table rest

def play (engine : Engine) (rows : Rows) (table : TableId) (episode : Episode) :
    Option (Engine × Rows) :=
  match engine.callEach rows episode.transaction table episode.calls with
  | none => none
  | some (next, changed) =>
      some (next.perform episode.ending, if episode.commits then changed else rows)

def playEach (engine : Engine) (rows : Rows) (table : TableId) :
    List Episode → Option (Engine × Rows)
  | [] => some (engine, rows)
  | episode :: rest =>
      match engine.play rows table episode with
      | none => none
      | some (next, changed) => next.playEach changed table rest

/-! ### Within a transaction -/

structure Tracks (engine : Engine) (start : Database) (journal : Journal)
    (transaction : TransactionId) (table : TableId) (rows : Rows) : Prop where
  attends : engine.Attends start journal transaction
  mirrors : rows.Mirrors table (journal.view start.stored transaction)

section

variable {start : Database} {engine next : Engine} {journal : Journal}
  {transaction : TransactionId} {table : TableId} {rows changed : Rows}

theorem Serves.stored {table? : Option TableId} {outcome : Outcome} {change? : Option Change}
    (serves : engine.Serves next start journal transaction table? outcome change?)
    (isolated : engine.Isolated start journal) :
    next.database.stored = engine.database.stored := by
  rw [isolated.database.disk, serves.attends.isolated.database.disk]
  cases change? <;> rfl

theorem Tracks.call (tracks : engine.Tracks start journal transaction table rows)
    (setUp : start.SetUp) {call : Call}
    (calls : engine.call rows transaction table call = some (next, changed)) :
    ∃ noted, next.Tracks start noted transaction table changed ∧
      next.database.stored = engine.database.stored ∧ engine.database.Keeps next.database := by
  unfold Engine.call at calls
  split at calls
  · cases calls
  · rename_i reached outcome submits
    obtain ⟨change, changes, same⟩ := Option.map_eq_some_iff.mp calls
    cases same
    have serves := tracks.attends.submit setUp (call.transactional transaction table)
      (call.transaction_operation transaction table) submits
    have stored := serves.stored tracks.attends.isolated
    rw [changes] at serves
    refine ⟨journal.note transaction change, ⟨serves.attends, ?_⟩, stored, serves.keeps⟩
    rw [journal.view_note]
    apply tracks.mirrors.after
    intro stores
    exact Call.table_of_stores changes (serves.place change rfl) stores

theorem Tracks.callEach (tracks : engine.Tracks start journal transaction table rows)
    (setUp : start.SetUp) {calls : List Call}
    (succeed : engine.callEach rows transaction table calls = some (next, changed)) :
    ∃ noted, next.Tracks start noted transaction table changed ∧
      next.database.stored = engine.database.stored ∧ engine.database.Keeps next.database := by
  induction calls generalizing engine journal rows with
  | nil =>
      cases succeed
      exact ⟨journal, tracks, rfl, .refl _⟩
  | cons call rest ih =>
      unfold Engine.callEach at succeed
      split at succeed
      · cases succeed
      · rename_i reached middle calls
        obtain ⟨noted, tracked, stored, keeps⟩ := tracks.call setUp calls
        obtain ⟨last, tracksLast, storedLast, keepsLast⟩ := ih tracked succeed
        exact ⟨last, tracksLast, storedLast.trans stored, keeps.trans keepsLast⟩

end

/-! ### Between transactions -/

/-- Nothing is under way, no page is locked, and the map has what is on the disk of the table. -/
structure Settled (engine : Engine) (start : Database) (journal : Journal) (table : TableId)
    (rows : Rows) : Prop where
  isolated : engine.Isolated start journal
  idle : ∀ ticket : Nat, engine.tasks[ticket]? = none
  free : ∀ transaction page, engine.database.pool.locks.lockMode? transaction page = none
  awake : ∀ ticket : Nat, engine.database.pool.locks.sleepers[ticket]? = none
  mirrors : rows.Mirrors table engine.database.stored

section

variable {start : Database} {engine next : Engine} {journal : Journal} {table : TableId}
  {rows changed : Rows}

private theorem Settled.view (settled : engine.Settled start journal table rows)
    (transaction : TransactionId) :
    journal.view start.stored transaction = engine.database.stored := by
  have isolated := settled.isolated.database
  have none : journal.pending transaction = [] := by
    apply List.eq_nil_iff_forall_not_mem.mpr
    intro change member
    obtain ⟨frame, content, found, owned⟩ := isolated.pending transaction change member
    have written := (isolated.dirty _ frame content transaction found owned).1
    have holds := isolated.written transaction _ written
    rw [settled.free] at holds
    cases holds
  unfold Journal.view
  rw [none, isolated.disk]
  rfl

theorem Settled.tracks (settled : engine.Settled start journal table rows)
    (transaction : TransactionId) : engine.Tracks start journal transaction table rows := by
  have alone : engine.database.pool.locks.Alone transaction :=
    ⟨fun other page _ => settled.free other page, settled.awake⟩
  refine ⟨⟨settled.isolated, settled.idle, alone⟩, ?_⟩
  rw [settled.view]
  exact settled.mirrors

/-- A transaction that is alone has no lock left when it ends, and neither has anyone else. -/
private theorem Attends.settled {transaction : TransactionId}
    (attends : engine.Attends start journal transaction) {ended : Database} {after : Journal}
    (isolated : (engine.setDatabase ended).Isolated start after)
    (locks : ended.pool.locks = engine.database.pool.locks.releaseAll transaction)
    (mirrors : rows.Mirrors table ended.stored) :
    (engine.setDatabase ended).Settled start after table rows := by
  have accounted := attends.isolated.accounted
  refine ⟨isolated, attends.idle, ?_, ?_, mirrors⟩
  · intro other page
    change ended.pool.locks.lockMode? other page = none
    rw [locks]
    by_cases own : other = transaction
    · rw [own]
      exact accounted.lockMode?_releaseAll_self transaction page
    · rw [LockTable.lockMode?_releaseAll, attends.alone.others other page own]
      exact ite_self none
  · intro ticket
    change ended.pool.locks.sleepers[ticket]? = none
    cases found : ended.pool.locks.sleepers[ticket]? with
    | none => rfl
    | some sleeper =>
        rw [locks] at found
        obtain ⟨before, slept, _⟩ := LockTable.sleeper_of_foldl_release found
        rw [attends.alone.awake] at slept
        cases slept

private theorem stored_commit {transaction : TransactionId} {ended : Database}
    (isolated : engine.Isolated start journal)
    (committed : ended.stored = (journal.commit transaction).onDisk start.stored)
    (record : RecordId) :
    (ended.stored record).map (fun fields => fields.map Field.stored) =
      (journal.view start.stored transaction record).map
        (fun fields => fields.map Field.stored) := by
  have onDisk : journal.onDisk start.stored = engine.database.stored := isolated.database.disk.symm
  have cut : (fun other => (journal.onDisk start.stored other).map
      (fun fields => fields.map Field.stored)) = journal.onDisk start.stored := by
    rw [onDisk]
    exact funext engine.database.stored_cut
  have both : (journal.commit transaction).onDisk start.stored =
      replay (journal.onDisk start.stored) ((journal.pending transaction).map Change.cut) := by
    unfold Journal.onDisk Journal.commit
    rw [List.map_append, replay_append]
  -- What was on the disk is cut already, so that only the transaction's own changes are cut now.
  rw [Database.stored_cut, committed, both]
  unfold Journal.view
  rw [cut_replay, cut]

private theorem Attends.sleeps {transaction : TransactionId}
    (attends : engine.Attends start journal transaction) :
    engine.database.pool.locks.sleeps transaction = false := by
  apply LockTable.sleeps_eq_false.mpr
  intro ticket sleeper found
  rw [attends.alone.awake] at found
  cases found

theorem Tracks.commit {transaction : TransactionId}
    (tracks : engine.Tracks start journal transaction table rows) (setUp : start.SetUp) :
    (engine.database.commit transaction).2 = .ok () ∧
      (engine.perform (.commit transaction)).Settled start (journal.commit transaction) table rows ∧
        engine.database.Keeps (engine.perform (.commit transaction)).database := by
  have isolated := tracks.attends.isolated
  have awake := tracks.attends.sleeps
  obtain ⟨succeeds, reached, locks⟩ := isolated.database.commit setUp transaction
  have performed : (engine.perform (.commit transaction)).Isolated start
      (journal.after engine (.commit transaction)) := isolated.perform setUp awake
  have after : journal.after engine (.commit transaction) = journal.commit transaction := by
    unfold Journal.after
    dsimp only
    rw [succeeds]
  rw [after] at performed
  refine ⟨succeeds, tracks.attends.settled performed locks ?_,
    isolated.database.keeps_commit setUp transaction⟩
  exact tracks.mirrors.of_cut (stored_commit isolated reached.disk)

/-- An abort leaves the disk as it is, and with it any map that has what is there. -/
theorem Attends.abort {transaction : TransactionId}
    (attends : engine.Attends start journal transaction) (setUp : start.SetUp)
    (mirrors : rows.Mirrors table engine.database.stored) :
    (engine.perform (.abort transaction)).Settled start (journal.abort transaction) table rows ∧
      engine.database.Keeps (engine.perform (.abort transaction)).database := by
  have isolated := attends.isolated
  have awake := attends.sleeps
  obtain ⟨reached, locks⟩ := isolated.database.abort transaction
  have performed : (engine.perform (.abort transaction)).Isolated start
      (journal.after engine (.abort transaction)) := isolated.perform setUp awake
  have stored : (engine.database.abort transaction).stored = engine.database.stored := by
    rw [reached.disk, isolated.database.disk]
    rfl
  refine ⟨attends.settled performed locks ?_, engine.database.keeps_dismiss transaction⟩
  rw [stored]
  exact mirrors

/-! ### Episodes -/

theorem Settled.play (settled : engine.Settled start journal table rows) (setUp : start.SetUp)
    {episode : Episode} (plays : engine.play rows table episode = some (next, changed)) :
    ∃ ended, next.Settled start ended table changed ∧ engine.database.Keeps next.database := by
  unfold Engine.play at plays
  split at plays
  · cases plays
  · rename_i reached middle calls
    obtain ⟨noted, tracks, stored, keeps⟩ :=
      (settled.tracks episode.transaction).callEach setUp calls
    unfold Episode.ending at plays
    cases commits : episode.commits with
    | true =>
        rw [commits] at plays
        cases plays
        obtain ⟨_, ended, keepsOn⟩ := tracks.commit setUp
        exact ⟨_, ended, keeps.trans keepsOn⟩
    | false =>
        rw [commits] at plays
        cases plays
        have mirrors := settled.mirrors
        rw [← stored] at mirrors
        obtain ⟨ended, keepsOn⟩ := tracks.attends.abort setUp mirrors
        exact ⟨_, ended, keeps.trans keepsOn⟩

theorem Settled.playEach (settled : engine.Settled start journal table rows)
    (setUp : start.SetUp) {episodes : List Episode}
    (plays : engine.playEach rows table episodes = some (next, changed)) :
    ∃ ended, next.Settled start ended table changed ∧ engine.database.Keeps next.database := by
  induction episodes generalizing engine journal rows with
  | nil =>
      cases plays
      exact ⟨journal, settled, .refl _⟩
  | cons episode rest ih =>
      unfold Engine.playEach at plays
      split at plays
      · cases plays
      · rename_i reached middle first
        obtain ⟨ended, after, keeps⟩ := settled.play setUp first
        obtain ⟨last, settledLast, keepsLast⟩ := ih after plays
        exact ⟨last, settledLast, keeps.trans keepsLast⟩

end

end Engine

end RowStore
