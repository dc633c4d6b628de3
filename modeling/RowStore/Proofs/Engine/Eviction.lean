import RowStore.Proofs.Database.Eviction
import RowStore.Proofs.Database.Samples
import RowStore.Proofs.Engine.History

/-!
Eviction in an engine: a fetch that is granted its lock fails for want of room exactly when nothing
in the pool can be dropped, whatever happened before. A fetch that fails leaves the pages in the pool
as they are.
-/

set_option autoImplicit false

namespace RowStore

namespace Engine

/-- The database in which a fetch that was granted its lock looks for the page. -/
def fetching (engine : Engine) (ticket : Nat) (transaction : TransactionId) (page : PageId)
    (access : Access) : Database :=
  (engine.checked ticket (.fetching transaction page access)).noteAccess transaction page access

section

variable {engine : Engine} {ticket : Nat} {transaction : TransactionId} {page : PageId}
  {access : Access}

/-- The lock and the note of a write are all that changes before the page is looked for. -/
theorem fetching_eq : ∃ written,
    engine.fetching ticket transaction page access = { engine.database with
      pool := { engine.database.pool with
        written := written
        locks := (engine.database.pool.locks.acquire ticket
          ⟨transaction, page, access.mode⟩).1 } } := by
  cases access with
  | read => exact ⟨engine.database.pool.written, rfl⟩
  | write => exact ⟨_, rfl⟩

theorem turn_of_fetching
    (asks : engine.tasks[ticket]? = some (.fetching transaction page access))
    (granted : (engine.database.pool.locks.acquire ticket
      ⟨transaction, page, access.mode⟩).2 = .granted) :
    engine.turn ticket =
      match (engine.fetching ticket transaction page access).load page with
      | .ok (loaded, frame, content) =>
          engine.note ticket loaded (.finished (.fetched frame content))
      | .error fault =>
          engine.note ticket (engine.fetching ticket transaction page access)
            (.finished (.failed fault)) := by
  rw [turn_of_task asks]
  unfold Task.request
  rw [granted]
  unfold Progress.ofTask Progress.fetch fetching
  dsimp only
  cases ((engine.checked ticket (.fetching transaction page access)).noteAccess transaction page
    access).load page <;> rfl

/-- The lock on a page that is not in the pool keeps no other page from being dropped. -/
theorem Grounded.spares_fetching (grounded : engine.Grounded)
    (asks : engine.tasks[ticket]? = some (.fetching transaction page access))
    (absent : engine.database.pool.residentFrame? page = none) (other : PageId) :
    (engine.fetching ticket transaction page access).pool.Spares other ↔
      engine.database.pool.Spares other := by
  obtain ⟨written, same⟩ := @fetching_eq engine ticket transaction page access
  rw [same]
  refine Pool.spares_congr rfl ?_
  intro resident
  have different : page ≠ other := by
    rintro rfl
    exact resident absent
  unfold LockTable.exclusiveHolder?
  rw [LockTable.holders_acquire_elsewhere _ (fun _ => different)]
  intro sleeper sleeps
  obtain ⟨task, found, request⟩ := grounded.asleep ticket sleeper sleeps
  cases asks.symm.trans found
  exact request.symm

theorem Grounded.sound_fetching (grounded : engine.Grounded) :
    (engine.fetching ticket transaction page access).pool.Sound := by
  obtain ⟨written, same⟩ := @fetching_eq engine ticket transaction page access
  rw [same]
  exact grounded.steady.sound

theorem Grounded.fetch_exhausted (grounded : engine.Grounded)
    (asks : engine.tasks[ticket]? = some (.fetching transaction page access))
    (granted : (engine.database.pool.locks.acquire ticket
      ⟨transaction, page, access.mode⟩).2 = .granted) (capacity : Nat) :
    (engine.turn ticket).2 = .finished (.failed (.poolExhausted capacity)) ↔
      capacity = engine.database.pool.capacity ∧
        (∃ content, engine.database.Misses page content) ∧
        engine.database.pool.capacity ≤ engine.database.pool.residentCount ∧
        engine.database.pool.Stuck := by
  have fails : (engine.turn ticket).2 = .finished (.failed (.poolExhausted capacity)) ↔
      (engine.fetching ticket transaction page access).load page =
        .error (.poolExhausted capacity) := by
    rw [turn_of_fetching asks granted]
    cases (engine.fetching ticket transaction page access).load page with
    | error fault => simp [Engine.note]
    | ok answer => simp [Engine.note]
  have spares := grounded.spares_fetching asks
  have sound := @Grounded.sound_fetching engine ticket transaction page access grounded
  obtain ⟨written, same⟩ := @fetching_eq engine ticket transaction page access
  rw [fails, Database.load_eq_exhausted sound, Pool.stuck_iff, Pool.stuck_iff]
  rw [same] at spares ⊢
  refine and_congr_right fun _ => and_congr_right_iff.mpr ?_
  rintro ⟨content, absent, _⟩
  exact and_congr_right fun _ => forall_congr' fun other => not_congr (spares absent other)

theorem Grounded.fetch_of_full (grounded : engine.Grounded)
    (asks : engine.tasks[ticket]? = some (.fetching transaction page access))
    (granted : (engine.database.pool.locks.acquire ticket
      ⟨transaction, page, access.mode⟩).2 = .granted) {content : Page}
    (misses : engine.database.Misses page content)
    (full : engine.database.pool.capacity ≤ engine.database.pool.residentCount) {spare : PageId}
    (spares : engine.database.pool.Spares spare) :
    ∃ frame victim, (engine.turn ticket).2 = .finished (.fetched frame content) ∧
      engine.database.pool.Spares victim ∧
      (∀ other, (engine.turn ticket).1.database.pool.residentFrame? other =
        if other = page then some (frame, content)
        else if other = victim then none
        else engine.database.pool.residentFrame? other) ∧
      (engine.turn ticket).1.database.volume = engine.database.volume := by
  have sparesFetching := grounded.spares_fetching asks misses.1
  have sound := @Grounded.sound_fetching engine ticket transaction page access grounded
  have turns := turn_of_fetching asks granted
  obtain ⟨written, same⟩ := @fetching_eq engine ticket transaction page access
  rw [same] at turns sound sparesFetching
  have drops : ¬Pool.Stuck _ := fun stuck =>
    Pool.stuck_iff.mp stuck spare ((sparesFetching spare).mpr spares)
  obtain ⟨pool, frame, victim, sparesVictim, loads, after⟩ :=
    Database.load_of_full sound misses full drops
  rw [loads] at turns
  rw [turns]
  exact ⟨frame, victim, rfl, (sparesFetching victim).mp sparesVictim, after, rfl⟩

theorem resident_of_failed
    (asks : engine.tasks[ticket]? = some (.fetching transaction page access)) {fault : Fault}
    (fails : (engine.turn ticket).2 = .finished (.failed fault)) :
    (engine.turn ticket).1.database.pool.resident = engine.database.pool.resident := by
  cases verdict : (engine.database.pool.locks.acquire ticket
      ⟨transaction, page, access.mode⟩).2 with
  | asleep =>
      rw [turn_of_task asks]
      unfold Task.request
      rw [verdict]
      rfl
  | refused refusal =>
      rw [turn_of_task asks]
      unfold Task.request
      rw [verdict]
      rfl
  | granted =>
      have turns := turn_of_fetching asks verdict
      obtain ⟨written, same⟩ := @fetching_eq engine ticket transaction page access
      rw [same] at turns
      split at turns
      · rw [turns] at fails
        cases fails
      · rw [turns]
        rfl

/-- In every state, a fetch that is granted its lock fails for want of room exactly when the page is
not in the pool, its table is registered, the page can be read, the pool is full, and each page in it
has changes or is some transaction's own. If instead a full pool has a page without changes that no
transaction has to itself, the page comes for exactly one such page, and no file and no other page in
the pool changes. A fetch that fails leaves the same pages in the pool. -/
theorem fetch_exhausted_iff_stuck {start : Database} (setUp : start.SetUp)
    {actions : List DatabaseAction} (proper : (new start).Along Proper actions)
    (reached : (new start).serveEach actions = engine)
    (asks : engine.tasks[ticket]? = some (.fetching transaction page access)) :
    ((engine.database.pool.locks.acquire ticket ⟨transaction, page, access.mode⟩).2 = .granted →
      (∀ capacity, (engine.turn ticket).2 = .finished (.failed (.poolExhausted capacity)) ↔
        capacity = engine.database.pool.capacity ∧
          (∃ content, engine.database.Misses page content) ∧
          engine.database.pool.capacity ≤ engine.database.pool.residentCount ∧
          engine.database.pool.Stuck) ∧
      ∀ content spare, engine.database.Misses page content →
        engine.database.pool.capacity ≤ engine.database.pool.residentCount →
        engine.database.pool.Spares spare →
        ∃ frame victim, (engine.turn ticket).2 = .finished (.fetched frame content) ∧
          engine.database.pool.Spares victim ∧
          (∀ other, (engine.turn ticket).1.database.pool.residentFrame? other =
            if other = page then some (frame, content)
            else if other = victim then none
            else engine.database.pool.residentFrame? other) ∧
          (engine.turn ticket).1.database.volume = engine.database.volume) ∧
    ∀ fault, (engine.turn ticket).2 = .finished (.failed fault) →
      (engine.turn ticket).1.database.pool.resident = engine.database.pool.resident := by
  have grounded : engine.Grounded := reached ▸ (grounded_new setUp).serveEach proper
  refine ⟨?_, fun fault fails => resident_of_failed asks fails⟩
  intro granted
  refine ⟨grounded.fetch_exhausted asks granted, ?_⟩
  intro content spare misses full spares
  exact grounded.fetch_of_full asks granted misses full spares

end

/-- A pool of one page has a row that was not written back, and another page is fetched in vain. If
the one page was only read, the other one takes its place. -/
theorem fetch_exhausted_iff_stuck_one_frame :
    let start : Database := Samples.created 1
    let file : TableFile := Samples.rows
    let page : PageId := file.pageId 0
    let other : PageId := file.pageId 1
    let content : Page := ⟨other, Samples.numbers, 16, [0], [none, none, none], none⟩
    let after (operation : Operation) : List DatabaseAction :=
      [.append file, .append file, .perform (.begin 0 operation), .perform (.turn 0),
        .perform (.begin 1 (.fetch ⟨2⟩ other .read))]
    let storing := after (.insert ⟨1⟩ file.id (Samples.row 7))
    let reading := after (.fetch ⟨1⟩ page .read)
    let stuck := (new start).serveEach storing
    let roomy := (new start).serveEach reading
    start.SetUp ∧ (new start).Along Proper storing ∧ (new start).Along Proper reading ∧
      stuck.tasks[1]? = some (.fetching ⟨2⟩ other .read) ∧
      (stuck.database.pool.locks.acquire 1 ⟨⟨2⟩, other, .shared⟩).2 = .granted ∧
      (stuck.turn 1).2 = .finished (.failed (.poolExhausted 1)) ∧
      stuck.database.pool.Stuck ∧
      (stuck.turn 1).1.database.pool.resident = stuck.database.pool.resident ∧
      roomy.tasks[1]? = some (.fetching ⟨2⟩ other .read) ∧
      roomy.database.Misses other content ∧ roomy.database.pool.Spares page ∧
      ∃ frame victim, (roomy.turn 1).2 = .finished (.fetched frame content) ∧
        roomy.database.pool.Spares victim := by
  intro start file page other content after storing reading stuck roomy
  have setUp : start.SetUp := Samples.setUp_created (by decide)
  have proper : (new start).Along Proper storing := by decide +kernel
  have properReading : (new start).Along Proper reading := by decide +kernel
  have asks : stuck.tasks[1]? = some (.fetching ⟨2⟩ other .read) := by decide +kernel
  have asksReading : roomy.tasks[1]? = some (.fetching ⟨2⟩ other .read) := by decide +kernel
  have granted : (stuck.database.pool.locks.acquire 1 ⟨⟨2⟩, other, .shared⟩).2 = .granted := by
    decide +kernel
  have grantedReading :
      (roomy.database.pool.locks.acquire 1 ⟨⟨2⟩, other, .shared⟩).2 = .granted := by
    decide +kernel
  have fails : (stuck.turn 1).2 = .finished (.failed (.poolExhausted 1)) := by decide +kernel
  have misses : roomy.database.Misses other content :=
    ⟨by decide +kernel, file, by decide +kernel, by decide +kernel⟩
  have spares : roomy.database.pool.Spares page :=
    ⟨0, ⟨page, Samples.numbers, 16, [0], [none, none, none], none⟩, by decide +kernel, rfl,
      by decide +kernel⟩
  have full : roomy.database.pool.capacity ≤ roomy.database.pool.residentCount := by
    decide +kernel
  obtain ⟨answers, unmoved⟩ := fetch_exhausted_iff_stuck setUp proper rfl asks
  obtain ⟨_, _, _, isStuck⟩ := ((answers granted).1 1).mp fails
  obtain ⟨answersReading, _⟩ := fetch_exhausted_iff_stuck setUp properReading rfl asksReading
  obtain ⟨frame, victim, comes, dropped, _⟩ :=
    (answersReading grantedReading).2 content page misses full spares
  exact ⟨setUp, proper, properReading, asks, granted, fails, isStuck, unmoved _ fails, asksReading,
    misses, spares, frame, victim, comes, dropped⟩

end Engine

end RowStore
